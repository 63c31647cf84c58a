import MiniVllm.EngineProofs.Steps
import MiniVllm.Executor.Logged
import MiniVllm.SchedulerProofs.Rejections
import MiniVllm.SharingProofs.Hits

/-! Each finished sequence is cleaned up, registered and put out once, unless a step that finishes one raises. -/

namespace MiniVllm

open EngineCore Scheduler Scheduler.BudgetLoop

variable {ε : Type} {S : Setup ε}

section Log

variable (bm : BlockManager (ε × List SeqId)) (q : Sequence) (position : ℕ)

lemma listener_takeBlocks (pids : List ℕ) (a : BlockAllocator (ε × List SeqId)) :
    (pids.foldl (BlockAllocator.takeBlock S.logged.executor.callbacks) a).listener.2 = a.listener.2 := by
  induction pids generalizing a with
  | nil => rfl
  | cons pid rest ih => exact ih _

lemma listener_free (pids : List ℕ) (a : BlockAllocator (ε × List SeqId)) :
    (a.free S.logged.executor.callbacks pids).listener.2 = a.listener.2 := by
  rw [BlockAllocator.free]
  induction pids generalizing a with
  | nil => rfl
  | cons pid rest ih =>
    rw [List.foldl_cons, ih, BlockAllocator.releaseBlock]
    split_ifs <;> rfl

lemma cleanups_free (sid : SeqId) : (bm.free S.logged.blockParams sid).cleanups = bm.cleanups := by
  rw [BlockManager.free]
  split
  · rfl
  · exact listener_free _ _

lemma cleanups_shareBlock (sid : SeqId) (pid : ℕ) : (bm.shareBlock sid pid).2.cleanups = bm.cleanups := by
  simp only [BlockManager.shareBlock, BlockAllocator.incrementRef]
  split_ifs <;> rfl

lemma cleanups_allocateBlock (sid : SeqId) (hash : Option ℤ) (oom : Exn) :
    (bm.allocateBlock S.logged.executor.callbacks sid hash oom).2.cleanups = bm.cleanups := by
  have ha : (bm.allocator.allocate S.logged.executor.callbacks 1).2.listener.2 = bm.allocator.listener.2 := by
    rw [BlockAllocator.allocate]
    split_ifs
    · rfl
    · exact listener_takeBlocks _ _
  simp only [BlockManager.allocateBlock]
  split <;> simp_all [BlockManager.cleanups]

lemma cleanups_growLoop {body : BlockManager (ε × List SeqId) → Except Exn Unit × BlockManager (ε × List SeqId)}
    (hbody : ∀ bm, (body bm).2.cleanups = bm.cleanups) (n : ℕ) :
    (BlockManager.growLoop body n bm).2.cleanups = bm.cleanups := by
  induction n generalizing bm with
  | zero => rfl
  | succ n ih =>
    have hb := hbody bm
    rw [BlockManager.growLoop]
    split
    · rename_i he
      rw [he] at hb
      exact hb
    · rename_i he
      rw [he] at hb
      exact (ih _).trans hb

lemma cleanups_ensureBlock : (bm.ensureBlock S.logged.blockParams q position).2.cleanups = bm.cleanups := by
  have hgrow : ∀ bm : BlockManager (ε × List SeqId), ∀ i,
      (bm.growTable S.logged.blockParams q position i).2.cleanups = bm.cleanups := by
    intro bm i
    rw [BlockManager.growTable]
    split
    · exact cleanups_shareBlock _ _ _
    · exact cleanups_allocateBlock _ _ _ _
  have htable : (bm.withTable q.seqId).cleanups = bm.cleanups := by
    rw [BlockManager.withTable]
    split_ifs <;> rfl
  have hloop := cleanups_growLoop (bm.withTable q.seqId) (fun bm => hgrow bm (position / S.logged.blockParams.blockSize))
    (position / S.logged.blockParams.blockSize + 1 - ((bm.withTable q.seqId).getTable q.seqId).numBlocks)
  simp only [BlockManager.ensureBlock]
  split
  · rename_i he
    rw [he] at hloop
    exact hloop.trans htable
  · rename_i he
    rw [he] at hloop
    exact hloop.trans htable

lemma cleanups_ensures (calls : List (Sequence × ℕ)) :
    (forEach (ensureStep S.logged) bm calls).2.cleanups = bm.cleanups := by
  induction calls generalizing bm with
  | nil => rfl
  | cons call rest ih =>
    have hcall : (ensureStep S.logged bm call).2.cleanups = bm.cleanups := by
      have he := cleanups_ensureBlock (S := S) bm call.1 call.2
      simp only [ensureStep]
      split
      · rename_i h
        rw [h] at he
        exact he
      · rename_i h
        rw [h] at he
        exact he
    rw [forEach]
    split
    · rename_i h
      rw [h] at hcall
      exact hcall
    · rename_i h
      rw [h] at hcall
      exact (ih _).trans hcall

lemma cleanups_runBatch (queue : RequestQueue) (prefill decode : List Sequence) :
    (runBatch S.logged queue bm prefill decode).2.2.cleanups = bm.cleanups := by
  have hexec : ∀ input, (S.logged.executor.execute input bm).2.cleanups = bm.cleanups := fun _ => rfl
  simp only [runBatch]
  split
  · rfl
  · rename_i input _
    have hi := hexec input
    split
    · rename_i h
      rw [h] at hi
      exact hi
    · rename_i h
      rw [h] at hi
      exact hi

lemma cleanups_executeStep (queue : RequestQueue) (prefill decode : List Sequence) :
    (executeStep S.logged queue bm prefill decode).2.2.cleanups = bm.cleanups := by
  have hensure := cleanups_ensures (S := S) bm (ensureCalls S.logged.config prefill decode)
  simp only [executeStep]
  split_ifs
  · rfl
  · split
    · rename_i h
      rw [h] at hensure
      exact hensure
    · rename_i h
      rw [h] at hensure
      exact (cleanups_runBatch _ _ _ _).trans hensure

end Log

structure Registered (queue : RequestQueue) (log : List SeqId) (registered : List Sequence)
    (pending : List RequestId) : Prop where
  ids : ∀ rid sg, queue.finished.get? rid = some sg → ∀ q ∈ sg.seqs, q.seqId = ⟨rid, 0⟩ ∧ q.groupId = rid
  fresh : ∀ rid, queue.finished.get? rid = none ∨ rid ∈ pending →
    (⟨rid, 0⟩ : SeqId) ∉ log ∧ ∀ q ∈ registered, q.seqId ≠ ⟨rid, 0⟩
  once : ∀ rid ∉ pending, ∀ sg, queue.finished.get? rid = some sg → ∀ q ∈ sg.seqs, q.status = .finished →
    log.count q.seqId = 1 ∧ registered.filter (·.seqId = q.seqId) = [q]

def Kept (S : Setup ε) (queue : RequestQueue) (outputs : Dict RequestId (List Char)) (pending : List RequestId) : Prop :=
  ∀ rid ∉ pending, ∀ sg, queue.finished.get? rid = some sg → ∀ q ∈ sg.seqs, q.status = .finished →
    outputs.get? q.groupId = some (S.executor.detokenize q.outputTokenIds)

section Ledgers

variable {queue queue' : RequestQueue} {log : List SeqId} {registered : List Sequence} {pending : List RequestId}
  {outputs : Dict RequestId (List Char)} {rid : RequestId} {sg : SequenceGroup}

lemma Registered.of_finished (h : Registered queue log registered pending) (hf : queue'.finished = queue.finished) :
    Registered queue' log registered pending := by
  refine ⟨?_, ?_, ?_⟩
  · rw [hf]
    exact h.ids
  · rw [hf]
    exact h.fresh
  · rw [hf]
    exact h.once

lemma Kept.of_finished (h : Kept S queue outputs pending) (hf : queue'.finished = queue.finished) :
    Kept S queue' outputs pending := by
  rw [Kept, hf]
  exact h

lemma Registered.file (h : Registered queue log registered []) (hnew : queue.finished.get? rid = none)
    (hseqs : ∀ q ∈ sg.seqs, q.seqId = ⟨rid, 0⟩ ∧ q.groupId = rid ∧ q.status ≠ .finished)
    (hfin : queue'.finished = queue.finished.set rid sg) {sids : List SeqId} (hsids : ∀ sid ∈ sids, sid = ⟨rid, 0⟩)
    {qs : List Sequence} (hqs : ∀ q ∈ qs, q.seqId = ⟨rid, 0⟩) :
    Registered queue' (log ++ sids) (registered ++ qs) [] := by
  have hne : ∀ r, r ≠ rid → (⟨r, 0⟩ : SeqId) ≠ ⟨rid, 0⟩ := fun r hr he => hr (congrArg SeqId.request he)
  refine ⟨fun r g hg q hq => ?_, fun r hr => ?_, fun r _ g hg q hq hst => ?_⟩
  · rw [hfin] at hg
    rcases Dict.get?_set_some hg with ⟨rfl, rfl⟩ | hold
    · exact ⟨(hseqs q hq).1, (hseqs q hq).2.1⟩
    · exact h.ids r g hold q hq
  · have hnone := hr.resolve_right List.not_mem_nil
    rw [hfin, Dict.get?_set] at hnone
    split_ifs at hnone with hrid
    obtain ⟨hlog, hreg⟩ := h.fresh r (Or.inl hnone)
    refine ⟨fun hm => ?_, fun q hq => ?_⟩
    · rcases List.mem_append.mp hm with hm | hm
      · exact hlog hm
      · exact hne r hrid (hsids _ hm)
    · rcases List.mem_append.mp hq with hq | hq
      · exact hreg q hq
      · rw [hqs q hq]
        exact (hne r hrid).symm
  · rw [hfin] at hg
    rcases Dict.get?_set_some hg with ⟨rfl, rfl⟩ | hold
    · exact absurd hst (hseqs q hq).2.2
    · obtain ⟨hcount, hfilter⟩ := h.once r List.not_mem_nil g hold q hq hst
      have hr : r ≠ rid := by
        rintro rfl
        rw [hnew] at hold
        cases hold
      have hid := (h.ids r g hold q hq).1
      have hsid : q.seqId ∉ sids := by
        intro hm
        exact hne r hr (hid.symm.trans (hsids _ hm))
      have hreg : qs.filter (·.seqId = q.seqId) = [] := by
        refine List.filter_eq_nil_iff.mpr fun q' hq' he => ?_
        exact hne r hr (hid.symm.trans ((of_decide_eq_true he).symm.trans (hqs q' hq')))
      refine ⟨?_, ?_⟩
      · rw [List.count_append, hcount, List.count_eq_zero_of_not_mem hsid]
      · rw [List.filter_append, hfilter, hreg, List.append_nil]

lemma Kept.file (h : Kept S queue outputs []) (hseqs : ∀ q ∈ sg.seqs, q.status ≠ .finished)
    (hfin : queue'.finished = queue.finished.set rid sg) : Kept S queue' outputs [] := by
  intro r _ g hg q hq hst
  rw [hfin] at hg
  rcases Dict.get?_set_some hg with ⟨-, rfl⟩ | hold
  · exact absurd hst (hseqs q hq)
  · exact h r List.not_mem_nil g hold q hq hst

lemma Registered.report (h : Registered queue log registered (rid :: pending)) (hnot : rid ∉ pending) {q : Sequence}
    (hg : queue.finished.get? rid = some sg) (hseqs : sg.seqs = [q]) :
    Registered queue (log ++ [q.seqId]) (registered ++ [q]) pending := by
  have hid := (h.ids rid sg hg q (by simp [hseqs])).1
  have hne : ∀ r, r ≠ rid → (⟨r, 0⟩ : SeqId) ≠ q.seqId := by
    intro r hr he
    rw [hid] at he
    exact hr (congrArg SeqId.request he)
  refine ⟨h.ids, fun r hr => ?_, fun r hr g hg' q' hq' hst => ?_⟩
  · have hrid : r ≠ rid := by
      rintro rfl
      rcases hr with hr | hr
      · rw [hg] at hr
        cases hr
      · exact hnot hr
    obtain ⟨hlog, hreg⟩ := h.fresh r (hr.imp_right (List.mem_cons_of_mem rid))
    refine ⟨fun hm => ?_, fun q' hq' => ?_⟩
    · rcases List.mem_append.mp hm with hm | hm
      · exact hlog hm
      · exact hne r hrid (List.mem_singleton.mp hm)
    · rcases List.mem_append.mp hq' with hq' | hq'
      · exact hreg q' hq'
      · rw [List.mem_singleton.mp hq']
        exact (hne r hrid).symm
  · by_cases hrid : r = rid
    · subst hrid
      obtain rfl : g = sg := Option.some.inj (hg'.symm.trans hg)
      obtain rfl : q' = q := by simpa [hseqs] using hq'
      obtain ⟨hlog, hreg⟩ := h.fresh r (Or.inr (by simp))
      rw [← hid] at hlog hreg
      refine ⟨?_, ?_⟩
      · rw [List.count_append, List.count_eq_zero_of_not_mem hlog, List.count_singleton_self, Nat.zero_add]
      · have hnone : registered.filter (·.seqId = q'.seqId) = [] :=
          List.filter_eq_nil_iff.mpr fun q'' hq'' he => hreg q'' hq'' (of_decide_eq_true he)
        rw [List.filter_append, hnone]
        simp
    · obtain ⟨hcount, hfilter⟩ := h.once r (by simp [hrid, hr]) g hg' q' hq' hst
      have hid' := (h.ids r g hg' q' hq').1
      have hother : q'.seqId ≠ q.seqId := by
        rw [hid']
        exact hne r hrid
      refine ⟨?_, ?_⟩
      · rw [List.count_append, hcount, List.count_eq_zero_of_not_mem (by simpa using hother)]
      · rw [List.filter_append, hfilter]
        simp [hother.symm]

end Ledgers

section Schedule

variable {s₀ : CoreState ε} (h₀ : WellFormed S s₀) {l l' : BudgetLoop ε} {visited : List SequenceGroup}
  (h : Schedules S s₀ l l' visited)

include h₀ h

lemma Schedules.finished_kept {rid : RequestId} (hrid : rid ∉ dueIds s₀.queue.running.values) :
    l'.queue.finished.get? rid = s₀.queue.finished.get? rid := by
  rw [h.visits.frame.1, h.queue]
  exact (finishLoop_pass h₀).finished rid hrid

lemma Schedules.finished_due {rid : RequestId} (hrid : rid ∈ dueIds s₀.queue.running.values) :
    s₀.queue.finished.get? rid = none ∧ ∃ sg q, l'.queue.finished.get? rid = some sg ∧ sg.seqs = [q] ∧
      q.status = .finished ∧ q.seqId = ⟨rid, 0⟩ ∧ q.groupId = rid := by
  obtain ⟨sg, hsg, hd, rfl⟩ := mem_dueIds.mp hrid
  obtain ⟨rid, hg⟩ := (s₀.queue.running.mem_values sg).mp hsg
  obtain ⟨rfl, -, q, hq, hl⟩ := h₀.queue.running rid sg hg
  refine ⟨(h₀.queue.only_running hg).1, sg.retired, { q with status := .finished }, ?_, ?_, rfl, ?_, ?_⟩
  · rw [h.visits.frame.1, h.queue]
    exact (finishLoop_pass h₀).retired sg hsg hd
  · rw [SequenceGroup.retired, SequenceGroup.mapSeqs, hq, List.map_singleton]
  · exact hl.seqId
  · exact hl.groupId

lemma Registered.schedule {log : List SeqId} {registered : List Sequence}
    (hr : Registered s₀.queue log registered []) :
    Registered l'.queue log registered (dueIds s₀.queue.running.values) := by
  refine ⟨fun rid sg hg q hq => ?_, fun rid hrid => ?_, fun rid hrid sg hg => ?_⟩
  · by_cases hd : rid ∈ dueIds s₀.queue.running.values
    · obtain ⟨-, sg', q', hg', hq', -, hid, hgid⟩ := h.finished_due h₀ hd
      obtain rfl : sg = sg' := Option.some.inj (hg.symm.trans hg')
      obtain rfl : q = q' := by simpa [hq'] using hq
      exact ⟨hid, hgid⟩
    · rw [h.finished_kept h₀ hd] at hg
      exact hr.ids rid sg hg q hq
  · apply hr.fresh rid
    left
    by_cases hd : rid ∈ dueIds s₀.queue.running.values
    · exact (h.finished_due h₀ hd).1
    · rw [← h.finished_kept h₀ hd]
      exact hrid.resolve_right hd
  · rw [h.finished_kept h₀ hrid] at hg
    exact hr.once rid List.not_mem_nil sg hg

lemma Kept.schedule {outputs : Dict RequestId (List Char)} (hk : Kept S s₀.queue outputs []) :
    Kept S l'.queue outputs (dueIds s₀.queue.running.values) := by
  intro rid hrid sg hg
  rw [h.finished_kept h₀ hrid] at hg
  exact hk rid List.not_mem_nil sg hg

end Schedule

lemma cleanups_visits {l l' : BudgetLoop (ε × List SeqId)} {groups : List SequenceGroup}
    (h : Visits S.logged l groups l') : l'.blockManager.cleanups = l.blockManager.cleanups := by
  induction h with
  | nil => rfl
  | cons hv _ ih =>
    rw [ih]
    cases hv with
    | skip => rfl
    | reject => rfl
    | admission bm result hd hwait hfresh ha =>
      simp only [BlockManager.cleanups, ha.listener]

lemma cleanups_schedule {s₀ : CoreState (ε × List SeqId)} (h₀ : WellFormed S.logged s₀)
    {l l' : BudgetLoop (ε × List SeqId)} {visited : List SequenceGroup} (h : Schedules S.logged s₀ l l' visited) :
    l'.blockManager.cleanups = s₀.blockManager.cleanups := by
  rw [cleanups_visits h.visits, h.blockManager_eq h₀, dueFreed]
  generalize s₀.blockManager = bm
  induction s₀.queue.liveSeqs.filter (fun q => q.due) generalizing bm with
  | nil => rfl
  | cons q rest ih => exact (ih _).trans (cleanups_free bm q.seqId)

lemma Schedules.cleanups_executed {s₀ : CoreState (ε × List SeqId)} (h₀ : WellFormed S.logged s₀)
    {l l' : BudgetLoop (ε × List SeqId)} {visited : List SequenceGroup} (h : Schedules S.logged s₀ l l' visited)
    {prefill decode : List Sequence} {r : Except Exn Unit} {queue : RequestQueue} {bm : BlockManager (ε × List SeqId)}
    (hexec : executeStep S.logged l'.queue l'.blockManager prefill decode = (r, queue, bm)) :
    bm.cleanups = s₀.blockManager.cleanups := by
  have hlog := cleanups_executeStep (S := S) l'.blockManager l'.queue prefill decode
  rw [hexec] at hlog
  exact hlog.trans (cleanups_schedule h₀ h)

lemma nodup_dueIds {s₀ : CoreState ε} (h₀ : WellFormed S s₀) : (dueIds s₀.queue.running.values).Nodup :=
  (s₀.queue.running.nodup_values_map _ fun rid sg hg => (h₀.queue.running rid sg hg).1).sublist
    (List.filter_sublist.map _)

def Retired (queue : RequestQueue) (rid : RequestId) : Prop :=
  ∃ sg q, queue.finished.get? rid = some sg ∧ sg.seqs = [q] ∧ q.status = .finished ∧ q.groupId = rid

lemma Steps.finishedGroups {s s' : EngineState ε} (hw : WellFormed S s.core) {now : ℚ} {result : ScheduleResult}
    (hsteps : Steps S s now (.ok result) s') :
    result.finishedGroups = dueIds (beginStep S s now).core.queue.running.values ∧
      ∀ rid ∈ result.finishedGroups, Retired s'.queue rid := by
  have hwb := beginStep_wellFormed hw now
  cases hsteps with
  | done l l' visited queue bm hsched hexec hframe =>
    have hids : (l'.report l.queue.decodes.length).finishedGroups =
        dueIds (beginStep S s now).core.queue.running.values :=
      hsched.visits.frame.2.1.trans hsched.finishedGroups
    refine ⟨hids, fun rid hrid => ?_⟩
    rw [hids] at hrid
    obtain ⟨-, sg, q, hsg, hq, hst, -, hgid⟩ := hsched.finished_due hwb hrid
    rw [Retired, recordStep_queue]
    dsimp only
    rw [hframe.2.1]
    exact ⟨sg, q, hsg, hq, hst, hgid⟩

lemma cleanupFinished_registered (s : EngineState (ε × List SeqId)) (result : ScheduleResult)
    (hnd : result.finishedGroups.Nodup) (hg : ∀ rid ∈ result.finishedGroups, Retired s.queue rid)
    (h : Registered s.queue s.blockManager.cleanups s.metrics.finishedSeqs result.finishedGroups) :
    Registered (cleanupFinished S.logged s result).queue (cleanupFinished S.logged s result).blockManager.cleanups
      (cleanupFinished S.logged s result).metrics.finishedSeqs [] := by
  unfold cleanupFinished
  generalize result.finishedGroups = pending at hnd hg h
  induction pending generalizing s with
  | nil => exact h
  | cons rid rest ih =>
    obtain ⟨hnot, hrest⟩ := List.nodup_cons.mp hnd
    obtain ⟨sg, q, hsg, hq, -⟩ := hg rid (by simp)
    simp only [List.foldl_cons, hsg, hq, List.foldl_nil]
    refine ih (registerSequence (cleanupSequence S.logged s q.seqId) q) hrest
      (fun r hr => hg r (List.mem_cons_of_mem rid hr)) ?_
    exact h.report hnot hsg hq

lemma captureOutputs_metrics (s : EngineState ε) (result : ScheduleResult) :
    (LLMEngine.captureOutputs S s result).metrics = s.metrics := by
  obtain ⟨outputs, h⟩ := captureOutputs_frame S s result
  rw [h]

lemma captureOutputs_get (s : EngineState ε) (result : ScheduleResult)
    (hg : ∀ rid ∈ result.finishedGroups, Retired s.queue rid) (rid : RequestId) :
    (rid ∉ result.finishedGroups → (LLMEngine.captureOutputs S s result).outputs.get? rid = s.outputs.get? rid) ∧
      (rid ∈ result.finishedGroups → ∀ sg q, s.queue.finished.get? rid = some sg → sg.seqs = [q] →
        (LLMEngine.captureOutputs S s result).outputs.get? rid = some (S.executor.detokenize q.outputTokenIds)) := by
  unfold LLMEngine.captureOutputs
  generalize result.finishedGroups = pending at hg
  induction pending generalizing s with
  | nil => exact ⟨fun _ => rfl, fun h => by cases h⟩
  | cons r rest ih =>
    obtain ⟨sg, q, hsg, hq, hst, rfl⟩ := hg r (by simp)
    have hfilter : sg.seqs.filter (·.status = .finished) = [q] := by simp [hq, hst]
    simp only [List.foldl_cons, hsg, hfilter, List.foldl_nil]
    obtain ⟨hkeep, hput⟩ := ih { s with outputs := s.outputs.set q.groupId (S.executor.detokenize q.outputTokenIds) }
      (fun r hr => hg r (List.mem_cons_of_mem _ hr))
    constructor
    · intro hnot
      rw [List.mem_cons, not_or] at hnot
      rw [hkeep hnot.2]
      exact s.outputs.get?_set_ne _ hnot.1
    · intro hm sg' q' hsg' hq'
      by_cases hrest : rid ∈ rest
      · exact hput hrest sg' q' hsg' hq'
      · obtain rfl := (List.mem_cons.mp hm).resolve_right hrest
        obtain rfl : sg' = sg := Option.some.inj (hsg'.symm.trans hsg)
        obtain rfl : q' = q := by simpa [hq] using hq'.symm
        rw [hkeep hrest]
        exact s.outputs.get?_set_self _ _

lemma captureOutputs_kept (s : EngineState ε) (result : ScheduleResult)
    (hids : ∀ r g, s.queue.finished.get? r = some g → ∀ q ∈ g.seqs, q.groupId = r)
    (hg : ∀ rid ∈ result.finishedGroups, Retired s.queue rid)
    (h : Kept S s.queue s.outputs result.finishedGroups) :
    Kept S s.queue (LLMEngine.captureOutputs S s result).outputs [] := by
  intro rid _ sg hsg q hq hst
  obtain ⟨hkeep, hput⟩ := captureOutputs_get (S := S) s result hg rid
  rw [hids rid sg hsg q hq]
  by_cases hrid : rid ∈ result.finishedGroups
  · obtain ⟨sg', q', hsg', hq', -⟩ := hg rid hrid
    obtain rfl : sg = sg' := Option.some.inj (hsg.symm.trans hsg')
    obtain rfl : q = q' := by simpa [hq'] using hq
    exact hput hrid sg q hsg hq'
  · rw [hkeep hrid, ← hids rid sg hsg q hq]
    exact h rid hrid sg hsg q hq hst

structure Reported (S : Setup ε) (s : EngineState (ε × List SeqId)) : Prop where
  registered : Registered s.queue s.blockManager.cleanups s.metrics.finishedSeqs []
  kept : Kept S.logged s.queue s.outputs []

lemma reportFinished (s : EngineState (ε × List SeqId)) (result : ScheduleResult)
    (hnd : result.finishedGroups.Nodup) (hdue : ∀ rid ∈ result.finishedGroups, Retired s.queue rid)
    (hr : Registered s.queue s.blockManager.cleanups s.metrics.finishedSeqs result.finishedGroups)
    (hk : Kept S.logged s.queue s.outputs result.finishedGroups) :
    Reported S (LLMEngine.captureOutputs S.logged (recordStep (cleanupFinished S.logged s result) result) result) := by
  have hclean := cleanupFinished_registered (S := S) s result hnd hdue hr
  obtain ⟨hqueue, -, hout⟩ := cleanupFinished_frame S.logged s result
  have hcore := captureOutputs_core (S := S.logged) (recordStep (cleanupFinished S.logged s result) result) result
  have hmetrics := captureOutputs_metrics (S := S.logged)
    (recordStep (cleanupFinished S.logged s result) result) result
  refine ⟨?_, ?_⟩
  · rw [show (LLMEngine.captureOutputs S.logged _ result).queue = _ from congrArg CoreState.queue hcore,
      show (LLMEngine.captureOutputs S.logged _ result).blockManager = _ from congrArg CoreState.blockManager hcore,
      hmetrics]
    exact hclean
  · rw [show (LLMEngine.captureOutputs S.logged _ result).queue = _ from congrArg CoreState.queue hcore]
    apply captureOutputs_kept
    · intro r g hg q hq
      have hg' : s.queue.finished.get? r = some g := by
        rw [← hqueue]
        exact hg
      exact (hr.ids r g hg' q hq).2
    · intro rid hrid
      obtain ⟨sg, q, hsg, hq⟩ := hdue rid hrid
      refine ⟨sg, q, ?_, hq⟩
      rw [← hqueue] at hsg
      exact hsg
    · rw [← hqueue, ← hout] at hk
      exact hk

def AllReported (S : Setup ε) (s : EngineState (ε × List SeqId)) : Prop :=
  ∀ rid sg, s.queue.finished.get? rid = some sg → ∀ q ∈ sg.seqs, q.status = .finished →
    s.blockManager.cleanups.count q.seqId = 1 ∧ s.metrics.finishedSeqs.filter (·.seqId = q.seqId) = [q] ∧
      s.outputs.get? q.groupId = some (S.executor.detokenize q.outputTokenIds)

instance (s : EngineState (ε × List SeqId)) : Decidable (AllReported S s) :=
  decidable_of_iff (∀ e ∈ s.queue.finished.entries, ∀ q ∈ e.2.seqs, q.status = .finished →
      s.blockManager.cleanups.count q.seqId = 1 ∧ s.metrics.finishedSeqs.filter (·.seqId = q.seqId) = [q] ∧
        s.outputs.get? q.groupId = some (S.executor.detokenize q.outputTokenIds))
    ⟨fun h rid sg hg => h (rid, sg) ((s.queue.finished.mem_entries rid sg).mpr hg),
      fun h e he => h e.1 e.2 ((s.queue.finished.mem_entries e.1 e.2).mp he)⟩

/-- A step that finishes a sequence does not raise. -/
def finishesReturn (S : Setup ε) : StepCondition ε := fun s now =>
  dueIds (beginStep S s now).queue.running.values = [] ∨ (LLMEngine.step S s now).1.isOk = true

section Calls

variable {s : EngineState (ε × List SeqId)} (hw : WellFormed S.logged s.core) (h : Reported S s)

include hw h

lemma Reported.retire {sg : SequenceGroup} (hr : s.queue.running.get? sg.requestId = some sg) {q : Sequence}
    (hq : sg.seqs = [q]) {status : Status} (hst : status ≠ .finished) {s' : EngineState (ε × List SeqId)}
    (hqueue : s'.queue = s.queue.markFinished { sg with seqs := [{ q with status := status }] })
    (hbm : s'.blockManager = (abortSeq S.logged status s q).blockManager)
    (hmetrics : s'.metrics.finishedSeqs = s.metrics.finishedSeqs ++ [{ q with status := status }])
    (hout : s'.outputs = s.outputs) : Reported S s' := by
  obtain ⟨-, -, q', hq', hl⟩ := hw.queue.running _ sg hr
  obtain rfl : q' = q := by simpa [hq'] using hq
  have hnew : s.queue.finished.get? sg.requestId = none := (hw.queue.only_running hr).1
  have hlog : s'.blockManager.cleanups = s.blockManager.cleanups ++ [q'.seqId] := by
    rw [hbm, ← cleanups_free (S := S) s.blockManager q'.seqId]
    rfl
  have hfin : s'.queue.finished = s.queue.finished.set sg.requestId { sg with seqs := [{ q' with status := status }] } := by
    rw [hqueue]
    rfl
  refine ⟨?_, ?_⟩
  · rw [hlog, hmetrics]
    refine h.registered.file hnew ?_ hfin ?_ ?_
    · simpa using ⟨hl.seqId, hl.groupId, hst⟩
    · simpa using hl.seqId
    · simpa using hl.seqId
  · rw [hout]
    exact h.kept.file (by simpa using hst) hfin

omit hw in
lemma Reported.file_empty {sg : SequenceGroup} (hseqs : sg.seqs = [])
    (hnew : s.queue.finished.get? sg.requestId = none) {s' : EngineState (ε × List SeqId)}
    (hfin : s'.queue.finished = s.queue.finished.set sg.requestId sg) (hbm : s'.blockManager = s.blockManager)
    (hmetrics : s'.metrics.finishedSeqs = s.metrics.finishedSeqs) (hout : s'.outputs = s.outputs) : Reported S s' := by
  refine ⟨?_, ?_⟩
  · have hr : Registered s'.queue (s.blockManager.cleanups ++ []) (s.metrics.finishedSeqs ++ []) [] :=
      h.registered.file hnew (by simp [hseqs]) hfin (by simp) (by simp)
    rw [List.append_nil, List.append_nil] at hr
    rw [hbm, hmetrics]
    exact hr
  · rw [hout]
    exact h.kept.file (by simp [hseqs]) hfin

lemma Reported.timeoutGroup {item : RequestId × Bool} (hin : InPool s.queue item) :
    Reported S (timeoutGroup S.logged s item) := by
  have hspec := timeoutGroup_spec hw hin
  generalize EngineCore.timeoutGroup S.logged s item = s' at hspec ⊢
  cases hspec with
  | running sg q hr hq hl => exact h.retire hw hr hq (by simp) rfl rfl rfl rfl
  | waiting sg hg hs => exact h.file_empty hs (hw.queue.only_waiting hg).2.1 rfl rfl rfl rfl

lemma Reported.cancelRequest (rid : RequestId) : Reported S (cancelRequest S.logged s rid).2 := by
  rcases getById_cases s.queue rid with ⟨hn, -⟩ | ⟨sg, -, hg | ⟨-, hr⟩ | ⟨-, -, hf⟩ | ⟨hg, hr, hf, hj⟩⟩
  · have hsame : EngineCore.cancelRequest S.logged s rid = (false, s) := by simp only [EngineCore.cancelRequest, hn]
    rw [hsame]
    exact h
  · obtain ⟨rfl, -, hs⟩ := hw.queue.waiting rid sg hg
    rw [cancelRequest_waiting hw hg]
    exact h.file_empty hs (hw.queue.only_waiting hg).2.1 rfl rfl rfl rfl
  · obtain ⟨rfl, -, q, hq, hl⟩ := hw.queue.running rid sg hr
    rw [cancelRequest_running hw hr hq hl.phase.not_finished]
    exact h.retire hw hr hq (by simp) rfl rfl rfl rfl
  · rw [cancelRequest_finished hw hf]
    exact ⟨h.registered, h.kept⟩
  · obtain ⟨rfl, -, hs⟩ := hw.queue.rejected rid sg hj
    rw [cancelRequest_rejected hw hg hr hf hj]
    exact h.file_empty hs hf rfl rfl rfl rfl

lemma Reported.checkTimeouts (now : ℚ) : Reported S (checkTimeouts S.logged s now) := by
  obtain ⟨hnd, hin⟩ := expired_items hw now
  apply timeouts_rule _ hw h _ hnd hin
  exact fun s item hw hin h => h.timeoutGroup hw hin

lemma Reported.begun (now : ℚ) : Reported S (beginStep S.logged s now) := by
  have hcount : Reported S { s with stepCount := s.stepCount + 1 } := ⟨h.registered, h.kept⟩
  exact Reported.checkTimeouts (s := { s with stepCount := s.stepCount + 1 }) hw hcount now

lemma Reported.step {now : ℚ} (hreturn : finishesReturn S.logged s now) :
    Reported S (LLMEngine.step S.logged s now).2 := by
  have hb := h.begun hw now
  have hwb := beginStep_wellFormed hw now
  have hsteps := step_steps hw now
  rw [finishesReturn, LLMEngine.step] at hreturn
  rw [LLMEngine.step]
  generalize EngineCore.step S.logged s now = out at hsteps hreturn ⊢
  obtain ⟨r, s'⟩ := out
  cases hsteps with
  | raised l l' visited err bm hsched hexec =>
    have hnone : dueIds (beginStep S.logged s now).core.queue.running.values = [] :=
      hreturn.resolve_right (by simp [Except.isOk, Except.toBool])
    have hr := hb.registered.schedule hwb hsched
    have hk := hb.kept.schedule hwb hsched
    rw [hnone] at hr hk
    have hbm : bm.cleanups = (beginStep S.logged s now).blockManager.cleanups := hsched.cleanups_executed hwb hexec
    rw [← hbm] at hr
    exact ⟨hr, hk⟩
  | done l l' visited queue bm hsched hexec hframe hrun =>
    have hr := hb.registered.schedule hwb hsched
    have hk := hb.kept.schedule hwb hsched
    have hbm : bm.cleanups = (beginStep S.logged s now).blockManager.cleanups := hsched.cleanups_executed hwb hrun
    rw [← hbm] at hr
    have hids : (l'.report l.queue.decodes.length).finishedGroups =
        dueIds (beginStep S.logged s now).core.queue.running.values :=
      hsched.visits.frame.2.1.trans hsched.finishedGroups
    apply reportFinished { beginStep S.logged s now with queue := queue, blockManager := bm }
    · rw [hids]
      exact nodup_dueIds hwb
    · intro rid hrid
      rw [hids] at hrid
      obtain ⟨-, sg, q, hsg, hq, hst, -, hgid⟩ := hsched.finished_due hwb hrid
      refine ⟨sg, q, ?_, hq, hst, hgid⟩
      rw [← hsg]
      exact congrArg (fun d => d.get? rid) hframe.2.1
    · rw [hids]
      exact hr.of_finished hframe.2.1
    · rw [hids]
      exact hk.of_finished hframe.2.1

lemma Reported.apply {op : LLMEngine.Op} (hop : (finishesReturn S.logged).Apply s op) :
    Reported S (LLMEngine.apply S.logged s op) := by
  cases op with
  | addRequest prompt maxNewTokens now =>
    refine ⟨h.registered.of_finished rfl, h.kept.of_finished rfl⟩
  | step now => exact h.step hw hop
  | cancelRequest rid => exact h.cancelRequest hw rid
  | checkTimeouts now => exact h.checkTimeouts hw now

omit hw in
lemma Reported.allReported : AllReported S s := by
  intro rid sg hg q hq hst
  obtain ⟨hcount, hfilter⟩ := h.registered.once rid List.not_mem_nil sg hg q hq hst
  exact ⟨hcount, hfilter, h.kept rid List.not_mem_nil sg hg q hq hst⟩

lemma Reported.returns {now : ℚ} (hall : AllReported S (LLMEngine.step S.logged s now).2) :
    finishesReturn S.logged s now := by
  have hb := h.begun hw now
  have hwb := beginStep_wellFormed hw now
  have hsteps := step_steps hw now
  rw [LLMEngine.step] at hall
  rw [finishesReturn, LLMEngine.step]
  generalize EngineCore.step S.logged s now = out at hsteps hall ⊢
  obtain ⟨r, s'⟩ := out
  cases hsteps with
  | raised l l' visited err bm hsched hexec =>
    left
    by_contra hne
    obtain ⟨rid, hrid⟩ := List.exists_mem_of_ne_nil _ hne
    obtain ⟨-, sg, q, hsg, hq, hst, hid, -⟩ := hsched.finished_due hwb hrid
    obtain ⟨hcount, -⟩ := hall rid sg hsg q (by simp [hq]) hst
    have hbm : bm.cleanups = (beginStep S.logged s now).blockManager.cleanups := hsched.cleanups_executed hwb hexec
    have hfresh := ((hb.registered.schedule hwb hsched).fresh rid (Or.inr hrid)).1
    rw [← hbm, ← hid] at hfresh
    have hzero := List.count_eq_zero_of_not_mem hfresh
    change bm.cleanups.count q.seqId = 1 at hcount
    omega
  | done => exact Or.inr rfl

end Calls

lemma reports_from {s : EngineState (ε × List SeqId)} (hw : WellFormed S.logged s.core) (h : Reported S s)
    (ops : List LLMEngine.Op) :
    (∀ done, done <+: ops → AllReported S (done.foldl (LLMEngine.apply S.logged) s)) ↔
      (finishesReturn S.logged).RunFrom S.logged s ops := by
  induction ops generalizing s with
  | nil =>
    refine ⟨fun _ => trivial, fun _ done hdone => ?_⟩
    rw [List.prefix_nil.mp hdone]
    exact h.allReported
  | cons op rest ih =>
    have hcond : (({} : CallCondition (ε × List SeqId))).Apply S.logged s op := (runFrom_true s [op]).1
    have hnext := hw.reaches (apply_refines hw hcond)
    constructor
    · intro hall
      have hop : (finishesReturn S.logged).Apply s op := by
        cases op with
        | step now => exact h.returns hw (hall [.step now] ⟨rest, rfl⟩)
        | addRequest => trivial
        | cancelRequest => trivial
        | checkTimeouts => trivial
      refine ⟨hop, (ih hnext (h.apply hw hop)).mp fun done hdone => ?_⟩
      exact hall (op :: done) (List.prefix_cons_inj op |>.mpr hdone)
    · rintro ⟨hop, hrest⟩ done hdone
      cases done with
      | nil => exact h.allReported
      | cons op' done =>
        obtain ⟨rfl, hrest_done⟩ := List.cons_prefix_cons.mp hdone
        exact (ih hnext (h.apply hw hop)).mpr hrest done hrest_done

theorem reports_iff (S : Setup ε) (ops : List LLMEngine.Op) :
    (∀ done, done <+: ops → AllReported S (LLMEngine.run S.logged done)) ↔
      (finishesReturn S.logged).Run S.logged ops := by
  refine reports_from (WellFormed.initial S.logged) ⟨⟨?_, ?_, ?_⟩, ?_⟩ ops
  · intro rid sg hg
    cases hg
  · intro rid _
    exact ⟨List.not_mem_nil, fun q hq => absurd hq List.not_mem_nil⟩
  · intro rid _ sg hg
    cases hg
  · intro rid _ sg hg
    cases hg

def threeBlocks : Config :=
  { Config.default with
    blockSize := 1
    numGpuBlocks := 3
    blockSize_pos := Nat.one_pos
    numGpuBlocks_pos := Nat.succ_pos 2 }

theorem finished_unreported : ¬ ∀ (config : Config) (blockHash : List ℕ → ℤ) (ops : List LLMEngine.Op),
    AllReported (fakeSetup config blockHash) (LLMEngine.run (fakeSetup config blockHash).logged ops) := by
  intro h
  have hall := h threeBlocks codeHash
    [.addRequest ['a'] 1 0, .addRequest ['b'] 5 0, .addRequest ['c'] 5 0, .step 0, .step 0]
  revert hall
  decide +kernel

end MiniVllm
