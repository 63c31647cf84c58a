import MiniVllm.EngineProofs.Steps
import MiniVllm.EngineProofs.Timeouts
import MiniVllm.SharingProofs.Hits

/-! The four pools partition the requests, unless a rejected request is cancelled. -/

namespace MiniVllm

open EngineCore Scheduler

variable {ε : Type} {S : Setup ε}

inductive Pool
  | waiting | running | finished | rejected
  deriving DecidableEq, Repr

namespace RequestQueue

def pool (qu : RequestQueue) : Pool → Dict RequestId SequenceGroup
  | .waiting => qu.waiting
  | .running => qu.running
  | .finished => qu.finished
  | .rejected => qu.rejected

def places (qu : RequestQueue) (rid : RequestId) : ℕ :=
  (qu.waiting.contains rid).toNat + (qu.running.contains rid).toNat + (qu.finished.contains rid).toNat +
    (qu.rejected.contains rid).toNat

end RequestQueue

def Status.Ended (status : Status) : Prop := status = .finished ∨ status = .cancelled ∨ status = .timeout

structure PoolsPartition (qu : RequestQueue) (n : ℕ) : Prop where
  one : ∀ rid < n, ∃! p, (qu.pool p).contains rid = true
  total : qu.total = n
  waiting : ∀ sg ∈ qu.waiting.values, sg.seqs = []
  running : ∀ sg ∈ qu.running.values, ∃ q, sg.seqs = [q] ∧ (q.status = .prefill ∨ q.status = .running)
  finished : ∀ sg ∈ qu.finished.values, ∀ q ∈ sg.seqs, q.status.Ended
  rejected : ∀ sg ∈ qu.rejected.values, sg.seqs = []

inductive Filing (qu : RequestQueue) : RequestQueue → Prop
  | retire (sg sg' : SequenceGroup) (hrun : qu.running.get? sg.requestId = some sg)
      (hid : sg'.requestId = sg.requestId) (hs : ∀ q ∈ sg'.seqs, q.status.Ended) : Filing qu (qu.markFinished sg')
  | withdraw (sg : SequenceGroup) (hwait : qu.waiting.get? sg.requestId = some sg) (hs : sg.seqs = []) :
      Filing qu (qu.withdraw sg)
  | reject (sg : SequenceGroup) (hwait : qu.waiting.get? sg.requestId = some sg) : Filing qu (qu.markRejected sg)
  | admission (sg sg' : SequenceGroup) (hwait : qu.waiting.get? sg.requestId = some sg)
      (hid : sg'.requestId = sg.requestId) : Filing qu (qu.markRunning sg')
  | update (qu' : RequestQueue) (hw : qu'.waiting = qu.waiting) (hf : qu'.finished = qu.finished)
      (hj : qu'.rejected = qu.rejected) (hrun : ∀ rid, qu'.running.contains rid = qu.running.contains rid) :
      Filing qu qu'

abbrev Filings : RequestQueue → RequestQueue → Prop := Relation.ReflTransGen Filing

structure Filed (qu : RequestQueue) (n : ℕ) : Prop where
  placed : ∀ rid, qu.places rid = if rid < n then 1 else 0
  ended : ∀ rid sg, qu.finished.get? rid = some sg → ∀ q ∈ sg.seqs, q.status.Ended

namespace Filed

variable {qu qu' : RequestQueue} {n : ℕ}

lemma places_le (h : Filed qu n) (rid : RequestId) : qu.places rid ≤ 1 := by
  rw [h.placed]
  split_ifs <;> omega

lemma of_places (h : Filed qu n) (hp : ∀ rid, qu'.places rid = qu.places rid)
    (he : ∀ rid sg, qu'.finished.get? rid = some sg →
      qu.finished.get? rid = some sg ∨ ∀ q ∈ sg.seqs, q.status.Ended) : Filed qu' n := by
  refine ⟨fun rid => (hp rid).trans (h.placed rid), fun rid sg hg => ?_⟩
  rcases he rid sg hg with hold | hnew
  · exact h.ended rid sg hold
  · exact hnew

lemma only_waiting (h : Filed qu n) {rid : RequestId} {sg : SequenceGroup} (hw : qu.waiting.get? rid = some sg) :
    qu.waiting.contains rid = true ∧ qu.running.contains rid = false ∧ qu.finished.contains rid = false ∧
      qu.rejected.contains rid = false := by
  have hle := h.places_le rid
  have hc := Dict.contains_of_get? hw
  rw [RequestQueue.places, hc, Bool.toNat_true] at hle
  refine ⟨hc, ?_, ?_, ?_⟩ <;> apply Bool.toNat_eq_zero.mp <;> omega

theorem step (h : Filed qu n) (hf : Filing qu qu') : Filed qu' n := by
  cases hf with
  | retire sg sg' hrun hid hs =>
    have hle := h.places_le sg.requestId
    have hr := Dict.contains_of_get? hrun
    refine h.of_places (fun rid => ?_) fun rid g hg => ?_
    · simp only [RequestQueue.places, RequestQueue.markFinished, Dict.contains_pop, Dict.contains_set, hid] at hle ⊢
      by_cases he : rid = sg.requestId
      · subst he
        simp only [hr, Bool.toNat_true] at hle
        simp only [hr, decide_true, Bool.not_true, Bool.false_and, Bool.true_or, Bool.toNat_true, Bool.toNat_false]
        omega
      · simp [he]
    · rcases Dict.get?_set_some hg with ⟨-, rfl⟩ | hold
      · exact Or.inr hs
      · exact Or.inl hold
  | withdraw sg hwait hs =>
    obtain ⟨hw, hr, hf, hj⟩ := h.only_waiting hwait
    refine h.of_places (fun rid => ?_) fun rid g hg => ?_
    · simp only [RequestQueue.places, RequestQueue.withdraw, Dict.contains_pop, Dict.contains_set]
      by_cases he : rid = sg.requestId
      · simp [he, hw, hr, hf, hj]
      · simp [he]
    · rcases Dict.get?_set_some hg with ⟨-, rfl⟩ | hold
      · exact Or.inr (by simp [hs])
      · exact Or.inl hold
  | reject sg hwait =>
    obtain ⟨hw, hr, hf, hj⟩ := h.only_waiting hwait
    refine h.of_places (fun rid => ?_) fun rid g hg => Or.inl hg
    simp only [RequestQueue.places, RequestQueue.markRejected, Dict.contains_pop, Dict.contains_set]
    by_cases he : rid = sg.requestId
    · simp [he, hw, hr, hf, hj]
    · simp [he]
  | admission sg sg' hwait hid =>
    obtain ⟨hw, hr, hf, hj⟩ := h.only_waiting hwait
    refine h.of_places (fun rid => ?_) fun rid g hg => Or.inl hg
    simp only [RequestQueue.places, RequestQueue.markRunning, Dict.contains_pop, Dict.contains_set, hid]
    by_cases he : rid = sg.requestId
    · simp [he, hw, hr, hf, hj]
    · simp [he]
  | update _ hw hf hj hrun =>
    refine h.of_places (fun rid => ?_) fun rid g hg => Or.inl (by rwa [hf] at hg)
    simp only [RequestQueue.places, hw, hf, hj, hrun]

theorem filings (h : Filed qu n) (hf : Filings qu qu') : Filed qu' n := by
  induction hf with
  | refl => exact h
  | tail _ ht ih => exact ih.step ht

lemma size_eq {pool : Dict RequestId SequenceGroup} (hp : ∀ rid, pool.contains rid = true → rid < n) :
    pool.size = (List.range n).countP pool.contains :=
  pool.size_eq_countP List.nodup_range fun rid hr => List.mem_range.mpr (hp rid hr)

lemma contains_lt (h : Filed qu n) {p : Pool} {rid : RequestId} (hc : (qu.pool p).contains rid = true) : rid < n := by
  by_contra hn
  have hz := h.placed rid
  rw [if_neg hn, RequestQueue.places] at hz
  cases p <;> simp only [RequestQueue.pool] at hc <;> rw [hc, Bool.toNat_true] at hz <;> omega

lemma total_eq (h : Filed qu n) : qu.total = n := by
  have hsum : ∀ ks : List RequestId, (∀ rid ∈ ks, rid < n) →
      ks.countP qu.waiting.contains + ks.countP qu.running.contains + ks.countP qu.finished.contains +
        ks.countP qu.rejected.contains = ks.length := by
    intro ks hks
    induction ks with
    | nil => rfl
    | cons rid rest ih =>
      have hone := h.placed rid
      rw [if_pos (hks rid (by simp)), RequestQueue.places] at hone
      have hrest := ih fun r hr => hks r (List.mem_cons_of_mem rid hr)
      simp only [Bool.toNat] at hone
      simp only [List.countP_cons, List.length_cons]
      revert hone
      cases qu.waiting.contains rid <;> cases qu.running.contains rid <;> cases qu.finished.contains rid <;>
        cases qu.rejected.contains rid <;> simp only [cond_true, cond_false, if_true, Bool.false_eq_true, if_false] <;>
        omega
  have hall := hsum (List.range n) fun rid hr => List.mem_range.mp hr
  rw [List.length_range] at hall
  have hw : qu.waiting.size = _ := size_eq fun rid hr => h.contains_lt (p := .waiting) hr
  have hr : qu.running.size = _ := size_eq fun rid hr => h.contains_lt (p := .running) hr
  have hf : qu.finished.size = _ := size_eq fun rid hr => h.contains_lt (p := .finished) hr
  have hj : qu.rejected.size = _ := size_eq fun rid hr => h.contains_lt (p := .rejected) hr
  rw [RequestQueue.total, RequestQueue.numWaiting, RequestQueue.numRunning, RequestQueue.numFinished,
    RequestQueue.numRejected, hw, hr, hf, hj, hall]

theorem partition (h : Filed qu n) (hq : QueueFormed qu n) : PoolsPartition qu n where
  one rid hr := by
    have hone := h.placed rid
    rw [if_pos hr, RequestQueue.places] at hone
    have hp : ∀ p, (qu.pool p).contains rid = match p with
        | .waiting => qu.waiting.contains rid
        | .running => qu.running.contains rid
        | .finished => qu.finished.contains rid
        | .rejected => qu.rejected.contains rid := by
      intro p
      cases p <;> rfl
    simp only [hp]
    generalize qu.waiting.contains rid = w at hone
    generalize qu.running.contains rid = r at hone
    generalize qu.finished.contains rid = f at hone
    generalize qu.rejected.contains rid = j at hone
    cases w <;> cases r <;> cases f <;> cases j <;> simp only [Bool.toNat_true, Bool.toNat_false] at hone <;>
      first
        | omega
        | exact ⟨.waiting, rfl, fun p hp => by cases p <;> first | rfl | cases hp⟩
        | exact ⟨.running, rfl, fun p hp => by cases p <;> first | rfl | cases hp⟩
        | exact ⟨.finished, rfl, fun p hp => by cases p <;> first | rfl | cases hp⟩
        | exact ⟨.rejected, rfl, fun p hp => by cases p <;> first | rfl | cases hp⟩
  total := h.total_eq
  waiting sg hsg := by
    obtain ⟨rid, hg⟩ := (qu.waiting.mem_values sg).mp hsg
    exact (hq.waiting rid sg hg).2.2
  running sg hsg := by
    obtain ⟨rid, hg⟩ := (qu.running.mem_values sg).mp hsg
    obtain ⟨-, -, q, hs, hl⟩ := hq.running rid sg hg
    exact ⟨q, hs, hl.phase.status⟩
  finished sg hsg := by
    obtain ⟨rid, hg⟩ := (qu.finished.mem_values sg).mp hsg
    exact h.ended rid sg hg
  rejected sg hsg := by
    obtain ⟨rid, hg⟩ := (qu.rejected.mem_values sg).mp hsg
    exact (hq.rejected rid sg hg).2.2

end Filed

lemma Filing.of_running_eq {qu qu' : RequestQueue} {f : SequenceGroup → SequenceGroup}
    (hw : qu'.waiting = qu.waiting) (hf : qu'.finished = qu.finished) (hj : qu'.rejected = qu.rejected)
    (hrun : ∀ rid, qu'.running.get? rid = (qu.running.get? rid).map f) : Filing qu qu' :=
  .update qu' hw hf hj fun rid => by rw [Dict.contains, Dict.contains, hrun, Option.isSome_map]

lemma Filing.sameAt {qu qu' : RequestQueue} (h : Filing qu qu') {rid : RequestId} (hd : Dead qu rid) :
    SameAt qu qu' rid := by
  have hrunning : ∀ sg, qu.running.get? rid = some sg → False := fun sg hg => by cases hg.symm.trans hd.running
  have hwaiting : ∀ sg, qu.waiting.get? rid = some sg → False := fun sg hg => by cases hg.symm.trans hd.waiting
  cases h with
  | retire sg sg' hrun hid hs =>
    have hne : rid ≠ sg'.requestId := by
      rintro rfl
      exact hrunning sg (by rw [hid]; exact hrun)
    exact sameAt_markFinished qu sg' hne
  | withdraw sg hwait hs =>
    have hne : rid ≠ sg.requestId := by
      rintro rfl
      exact hwaiting sg hwait
    exact sameAt_withdraw qu sg hne
  | reject sg hwait =>
    have hne : rid ≠ sg.requestId := by
      rintro rfl
      exact hwaiting sg hwait
    exact ⟨qu.waiting.get?_pop_ne hne, rfl, rfl, qu.rejected.get?_set_ne sg hne⟩
  | admission sg sg' hwait hid =>
    have hne : rid ≠ sg'.requestId := by
      rintro rfl
      exact hwaiting sg (by rw [hid]; exact hwait)
    exact ⟨qu.waiting.get?_pop_ne hne, qu.running.get?_set_ne sg' hne, rfl, rfl⟩
  | update _ hw hf hj hrun =>
    refine ⟨by rw [hw], ?_, by rw [hf], by rw [hj]⟩
    have hnone := hrun rid
    rw [Dict.contains, Dict.contains, hd.running, Option.isSome_none, Option.isSome_eq_false_iff,
      Option.isNone_iff_eq_none] at hnone
    rw [hnone, hd.running]

lemma Filings.sameAt {qu qu' : RequestQueue} (h : Filings qu qu') {rid : RequestId} (hd : Dead qu rid) :
    SameAt qu qu' rid := by
  induction h with
  | refl => exact .refl _ _
  | tail _ hf ih => exact ih.trans (hf.sameAt (ih.dead hd))

section Calls

variable {s : EngineState ε} (h : WellFormed S s.core)

include h

lemma timeoutGroup_filing {item : RequestId × Bool} (hin : InPool s.queue item) :
    Filing s.queue (timeoutGroup S s item).queue := by
  have hspec := timeoutGroup_spec h hin
  generalize timeoutGroup S s item = s' at hspec ⊢
  cases hspec with
  | running sg q hr hq hl => exact .retire sg _ hr rfl (by simp [Status.Ended])
  | waiting sg hw hs => exact .withdraw sg hw hs

lemma timeouts_filings (items : List (RequestId × Bool)) (hnd : (items.map Prod.fst).Nodup)
    (hin : ∀ item ∈ items, InPool s.queue item) : Filings s.queue (items.foldl (timeoutGroup S) s).queue := by
  refine timeouts_rule (P := fun s' => Filings s.queue s'.queue) ?_ h .refl items hnd hin
  intro s' item h' hitem hf
  exact hf.tail (timeoutGroup_filing h' hitem)

lemma cancelRequest_filings {rid : RequestId} (hj : s.queue.rejected.get? rid = none) :
    Filings s.queue (cancelRequest S s rid).2.queue := by
  rcases getById_cases s.queue rid with ⟨hn, -⟩ | ⟨sg, -, hw | ⟨-, hr⟩ | ⟨-, -, hf⟩ | ⟨-, -, -, hj'⟩⟩
  · have hsame : cancelRequest S s rid = (false, s) := by simp only [cancelRequest, hn]
    rw [hsame]
  · obtain ⟨rfl, -, hs⟩ := h.queue.waiting rid sg hw
    rw [cancelRequest_waiting h hw]
    exact .single (.withdraw sg hw hs)
  · obtain ⟨rfl, -, q, hq, hl⟩ := h.queue.running rid sg hr
    rw [cancelRequest_running h hr hq hl.phase.not_finished]
    exact .single (.retire sg _ hr rfl (by simp [Status.Ended]))
  · rw [cancelRequest_finished h hf]
  · rw [hj] at hj'
    cases hj'

lemma checkTimeouts_filings (now : ℚ) : Filings s.queue (checkTimeouts S s now).queue := by
  obtain ⟨hnd, hin⟩ := expired_items h now
  exact timeouts_filings h _ hnd hin

end Calls

lemma Visits.filings {l l' : BudgetLoop ε} {groups : List SequenceGroup} (h : Visits S l groups l') :
    Filings l.queue l'.queue := by
  induction h with
  | nil => exact .refl
  | cons hv _ ih =>
    refine Relation.ReflTransGen.trans ?_ ih
    cases hv with
    | skip => exact .refl
    | reject hd hwait => exact .single (.reject _ hwait)
    | admission bm result hd hwait => exact .single (.admission _ _ hwait rfl)

section Schedule

variable {s₀ : CoreState ε} (h₀ : WellFormed S s₀)

include h₀

lemma finishGroups_filings {l : FinishLoop ε} {groups : List SequenceGroup} (h : Finishing S {} s₀ l groups) :
    Filings l.queue (groups.foldl (finishGroup S) l).queue := by
  induction groups generalizing l with
  | nil => exact .refl
  | cons sg rest ih =>
    have hrun := h.pending sg (by simp)
    obtain ⟨-, -, q, hq, hl⟩ := (h₀.reaches h.reach).queue.running _ sg hrun
    have hrest := ih (h.step h₀)
    rw [List.foldl_cons]
    by_cases hd : q.due
    · refine .head ?_ hrest
      rw [finishGroup_due hq hl.phase.not_finished hd]
      exact .retire sg _ hrun rfl (by simp [SequenceGroup.finishedWith, Status.Ended])
    · rw [finishGroup_keep hq hl.phase.not_finished hd hrun] at hrest ⊢
      exact hrest

lemma Schedules.filings {l l' : BudgetLoop ε} {visited : List SequenceGroup} (h : Schedules S s₀ l l' visited) :
    Filings s₀.queue l'.queue := by
  have hfinish : Filings s₀.queue l.queue := by
    rw [h.queue]
    exact finishGroups_filings h₀ (Finishing.start h₀)
  exact hfinish.trans h.visits.filings

end Schedule

lemma Steps.filings {s s' : EngineState ε} (h : WellFormed S s.core) {now : ℚ} {r : Except Exn ScheduleResult}
    (hsteps : Steps S s now r s') : Filings (beginStep S s now).queue s'.queue := by
  have hwb := beginStep_wellFormed h now
  cases hsteps with
  | raised l l' visited err bm hsched => exact hsched.filings hwb
  | done l l' visited queue bm hsched hexec hframe hran =>
    have hbatch : Filing l'.queue queue := by
      obtain ⟨hw, hf, hj⟩ := hframe
      cases hexec with
      | kept => exact .update _ rfl rfl rfl fun _ => rfl
      | done bm output x queue hreach hready hrun => exact .of_running_eq hw hf hj hrun
    have hclean : (cleanupFinished S { beginStep S s now with queue := queue, blockManager := bm }
        (l'.report l.queue.decodes.length)).queue = queue := (cleanupFinished_frame S _ _).1
    have hall : Filings (beginStep S s now).queue queue := (hsched.filings hwb).tail hbatch
    rw [← hclean] at hall
    exact hall

lemma EngineCore.step_filings {s : EngineState ε} (h : WellFormed S s.core) (now : ℚ) :
    Filings s.queue (EngineCore.step S s now).2.queue := by
  have hbegin : Filings s.queue (beginStep S s now).queue :=
    checkTimeouts_filings (s := { s with stepCount := s.stepCount + 1 }) h now
  exact hbegin.trans ((step_steps h now).filings h)

/-- The call does not cancel a request that the scheduler rejected. -/
def SparesRejected (s : EngineState ε) : LLMEngine.Op → Prop
  | .cancelRequest rid => s.queue.rejected.get? rid = none
  | _ => True

def SparesRejectedFrom (S : Setup ε) : EngineState ε → List LLMEngine.Op → Prop
  | _, [] => True
  | s, op :: ops => SparesRejected s op ∧ SparesRejectedFrom S (LLMEngine.apply S s op) ops

lemma Filed.submit {qu : RequestQueue} {n : ℕ} (h : Filed qu n) {sg : SequenceGroup} (hid : sg.requestId = n) :
    Filed (qu.add sg) (n + 1) := by
  refine ⟨fun rid => ?_, h.ended⟩
  have hold := h.placed rid
  simp only [RequestQueue.places, RequestQueue.add, Dict.contains_set, hid] at hold ⊢
  by_cases he : rid = n
  · subst he
    simp only [lt_irrefl, if_false] at hold
    simp only [decide_true, Bool.true_or, Bool.toNat_true, Nat.lt_succ_self, if_true]
    omega
  · have hiff : rid < n + 1 ↔ rid < n := by
      rw [Nat.lt_succ_iff_lt_or_eq]
      simp only [he, or_false]
    simp only [he, decide_false, Bool.false_or, hiff]
    exact hold

theorem Filed.apply {s : EngineState ε} (hw : WellFormed S s.core) (h : Filed s.queue s.seqGroupCount)
    {op : LLMEngine.Op} (hop : SparesRejected s op) :
    Filed (LLMEngine.apply S s op).queue (LLMEngine.apply S s op).seqGroupCount := by
  cases op with
  | addRequest prompt maxNewTokens now => exact h.submit rfl
  | step now =>
    have hstep := h.filings (EngineCore.step_filings hw now)
    rw [← step_seqGroupCount S s now] at hstep
    simp only [LLMEngine.apply, LLMEngine.step]
    cases he : EngineCore.step S s now with
    | mk r s' =>
      rw [he] at hstep
      cases r with
      | error err => exact hstep
      | ok result =>
        have hcore := captureOutputs_core (S := S) s' result
        have hq : (LLMEngine.captureOutputs S s' result).queue = s'.queue := congrArg CoreState.queue hcore
        have hn : (LLMEngine.captureOutputs S s' result).seqGroupCount = s'.seqGroupCount :=
          congrArg CoreState.seqGroupCount hcore
        simp only [hq, hn]
        exact hstep
  | cancelRequest rid =>
    have hcancel := h.filings (cancelRequest_filings hw hop)
    rw [← cancelRequest_seqGroupCount S s rid] at hcancel
    exact hcancel
  | checkTimeouts now =>
    have htimeouts := h.filings (checkTimeouts_filings hw now)
    rw [← checkTimeouts_seqGroupCount S s now] at htimeouts
    exact htimeouts

theorem Filed.runFrom {s : EngineState ε} (hw : WellFormed S s.core) (h : Filed s.queue s.seqGroupCount)
    (ops : List LLMEngine.Op) (hops : SparesRejectedFrom S s ops) :
    Filed (ops.foldl (LLMEngine.apply S) s).queue (ops.foldl (LLMEngine.apply S) s).seqGroupCount := by
  induction ops generalizing s with
  | nil => exact h
  | cons op rest ih =>
    have hcond : (({} : CallCondition ε)).Apply S s op := (runFrom_true s [op]).1
    exact ih (hw.reaches (apply_refines hw hcond)) (h.apply hw hops.1) hops.2

theorem pools_partition (S : Setup ε) (ops : List LLMEngine.Op)
    (hops : SparesRejectedFrom S (LLMEngine.initial S) ops) :
    PoolsPartition (LLMEngine.run S ops).queue (requestsOf S ops).length := by
  have hfiled : Filed (LLMEngine.run S ops).queue (LLMEngine.run S ops).seqGroupCount := by
    refine Filed.runFrom (WellFormed.initial S) ⟨fun rid => rfl, fun rid sg hg => ?_⟩ ops hops
    cases hg
  have hq : QueueFormed (LLMEngine.run S ops).queue (LLMEngine.run S ops).seqGroupCount := (wellFormed_run S ops).queue
  rw [← (serves_run S ops).1]
  exact hfiled.partition hq

def wholePrompts : Config :=
  { Config.default with
    maxNumBatchedTokens := 1
    chunkedPrefillEnabled := false
    maxNumBatchedTokens_pos := Nat.one_pos }

section Decidable

instance (s : EngineState ε) : (op : LLMEngine.Op) → Decidable (SparesRejected s op)
  | .cancelRequest rid => inferInstanceAs (Decidable (s.queue.rejected.get? rid = none))
  | .addRequest _ _ _ => isTrue trivial
  | .step _ => isTrue trivial
  | .checkTimeouts _ => isTrue trivial

instance sparesRejectedFrom : (s : EngineState ε) → (ops : List LLMEngine.Op) → Decidable (SparesRejectedFrom S s ops)
  | _, [] => isTrue trivial
  | s, op :: ops =>
    have := sparesRejectedFrom (LLMEngine.apply S s op) ops
    inferInstanceAs (Decidable (_ ∧ _))

end Decidable

theorem pools_partition_of_cancels :
    PoolsPartition
      (LLMEngine.run (fakeSetup wholePrompts codeHash) [.addRequest ['a'] 2 0, .addRequest ['a', 'b'] 1 0, .step 0,
        .cancelRequest 0, .cancelRequest 0, .cancelRequest 7]).queue
      (requestsOf (fakeSetup wholePrompts codeHash) [.addRequest ['a'] 2 0, .addRequest ['a', 'b'] 1 0, .step 0,
        .cancelRequest 0, .cancelRequest 0, .cancelRequest 7]).length :=
  pools_partition (fakeSetup wholePrompts codeHash) [.addRequest ['a'] 2 0, .addRequest ['a', 'b'] 1 0, .step 0,
    .cancelRequest 0, .cancelRequest 0, .cancelRequest 7] (by decide +kernel)

theorem cancelled_rejection_in_two_pools : ¬ ∀ (config : Config) (blockHash : List ℕ → ℤ) (ops : List LLMEngine.Op),
    PoolsPartition (LLMEngine.run (fakeSetup config blockHash) ops).queue
      (requestsOf (fakeSetup config blockHash) ops).length := by
  intro h
  have htotal := (h wholePrompts codeHash [.addRequest ['a', 'b'] 1 0, .step 0, .cancelRequest 0]).total
  revert htotal
  decide +kernel

end MiniVllm
