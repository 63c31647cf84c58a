import MiniVllm.EngineProofs.Registry
import Mathlib.Algebra.Order.BigOperators.Group.List

/-! The reported block utilisation reads tables that are gone: it is 0 whatever the finished sequences held. -/

namespace MiniVllm

open EngineCore Scheduler Scheduler.BudgetLoop MetricsCollector

variable {ε : Type} {S : Setup ε}

def finishesOf (S : Setup ε) (s : EngineState ε) : LLMEngine.Op → List (Sequence × ℕ)
  | .step now => ((beginStep S s now).queue.liveSeqs.filter (·.due)).map
      (fun q => (q, ((beginStep S s now).blockManager.getBlockTable q.seqId).length))
  | _ => []

def finishes (S : Setup ε) (ops : List LLMEngine.Op) : List (Sequence × ℕ) := collect (finishesOf S) S ops

/-- The average number of tokens in a block, each sequence taken as it finished. -/
def avgUtilAtFinish (S : Setup ε) (ops : List LLMEngine.Op) : ℚ :=
  mean ((finishes S ops).map (fun f => (totalTokens f.1 : ℚ) / f.2))

def FinishedSome (qu : RequestQueue) : Prop :=
  ∃ sg ∈ qu.finished.values, ∃ q ∈ sg.seqs, q.status = .finished ∧ q.promptTokenIds ≠ []

instance (qu : RequestQueue) : Decidable (FinishedSome qu) := inferInstanceAs (Decidable (∃ sg ∈ _, ∃ q ∈ _, _ ∧ _))

lemma finishes_concat (ops : List LLMEngine.Op) (op : LLMEngine.Op) :
    finishes S (ops ++ [op]) = finishes S ops ++ finishesOf S (LLMEngine.run S ops) op :=
  collect_concat (finishesOf S) S ops op

section Calls

variable {s : EngineState ε} (hw : WellFormed S s.core) {rid : RequestId} {sg : SequenceGroup} {q : Sequence}

include hw

lemma checkTimeouts_finished (now : ℚ) (hsg : (checkTimeouts S s now).queue.finished.get? rid = some sg)
    (hq : q ∈ sg.seqs) (hst : q.status = .finished) : s.queue.finished.get? rid = some sg := by
  obtain ⟨hsame, hlost⟩ := checkTimeouts_at hw now rid
  by_cases hexp : Expires S s.queue now rid
  · exact absurd hst ((hlost hexp).unfinished sg hsg q hq)
  · rw [← (hsame hexp).finished]
    exact hsg

lemma cancelRequest_finishedAt {id : RequestId} (hsg : (cancelRequest S s id).2.queue.finished.get? rid = some sg)
    (hq : q ∈ sg.seqs) (hst : q.status = .finished) : s.queue.finished.get? rid = some sg := by
  rcases getById_cases s.queue id with ⟨hn, -⟩ | ⟨g, -, hg | ⟨-, hr⟩ | ⟨-, -, hf⟩ | ⟨hg, hr, hf, hj⟩⟩
  · simp only [EngineCore.cancelRequest, hn] at hsg
    exact hsg
  · obtain ⟨rfl, -, hs⟩ := hw.queue.waiting id g hg
    rw [cancelRequest_waiting hw hg] at hsg
    rcases Dict.get?_set_some hsg with ⟨-, rfl⟩ | hold
    · rw [hs] at hq
      cases hq
    · exact hold
  · obtain ⟨rfl, -, q', hq', hl⟩ := hw.queue.running id g hr
    rw [cancelRequest_running hw hr hq' hl.phase.not_finished] at hsg
    rcases Dict.get?_set_some hsg with ⟨-, rfl⟩ | hold
    · rw [List.mem_singleton.mp hq] at hst
      cases hst
    · exact hold
  · rw [cancelRequest_finished hw hf] at hsg
    exact hsg
  · obtain ⟨rfl, -, hs⟩ := hw.queue.rejected id g hj
    rw [cancelRequest_rejected hw hg hr hf hj] at hsg
    rcases Dict.get?_set_some hsg with ⟨-, rfl⟩ | hold
    · rw [hs] at hq
      cases hq
    · exact hold

lemma step_finished (now : ℚ) (hsg : (LLMEngine.apply S s (.step now)).queue.finished.get? rid = some sg)
    (hq : q ∈ sg.seqs) (hst : q.status = .finished) :
    s.queue.finished.get? rid = some sg ∨
      ∃ f ∈ finishesOf S s (.step now), q = { f.1 with status := .finished } := by
  have hwb := beginStep_wellFormed hw now
  have hqueue : (LLMEngine.apply S s (.step now)).queue = (EngineCore.step S s now).2.queue :=
    LLMEngine.step_queue s now
  obtain ⟨l, l', visited, hsched, hfin⟩ := (step_steps hw now).files
  rw [hqueue, hfin] at hsg
  by_cases hd : rid ∈ dueIds (beginStep S s now).core.queue.running.values
  · obtain ⟨g, hg, hdue, rfl⟩ := mem_dueIds.mp hd
    obtain ⟨hrun, q₀, hq₀, hl⟩ := running_one hwb hg
    rw [hsched.visits.frame.1, hsched.queue, finishLoop_retired hwb hrun hdue] at hsg
    cases hsg
    have hlive : q₀ ∈ (beginStep S s now).queue.liveSeqs := by
      have hunf : g.getUnfinishedSeqs = [q₀] := by simp [SequenceGroup.getUnfinishedSeqs, hq₀, hl.not_finished]
      exact List.mem_flatMap.mpr ⟨g, hg, by rw [hunf]; simp⟩
    refine Or.inr ⟨(q₀, _), List.mem_map.mpr ⟨q₀, ?_, rfl⟩, ?_⟩
    · exact List.mem_filter.mpr ⟨hlive, decide_eq_true ((SequenceGroup.due_iff hq₀).mp hdue)⟩
    · simpa [SequenceGroup.retired, SequenceGroup.mapSeqs, hq₀] using hq
  · rw [hsched.finished_kept hwb hd] at hsg
    exact Or.inl (checkTimeouts_finished (s := { s with stepCount := s.stepCount + 1 }) hw now hsg hq hst)

end Calls

lemma mem_finishes (ops : List LLMEngine.Op) {rid : RequestId} {sg : SequenceGroup} {q : Sequence}
    (hsg : (LLMEngine.run S ops).queue.finished.get? rid = some sg) (hq : q ∈ sg.seqs) (hst : q.status = .finished) :
    ∃ f ∈ finishes S ops, q = { f.1 with status := .finished } := by
  induction ops using List.reverseRecOn with
  | nil => cases hsg
  | append_singleton ops op ih =>
    have hw := wellFormed_run S ops
    have hold : (LLMEngine.run S ops).queue.finished.get? rid = some sg →
        ∃ f ∈ finishes S (ops ++ [op]), q = { f.1 with status := .finished } := by
      intro hold
      obtain ⟨f, hf, he⟩ := ih hold
      refine ⟨f, ?_, he⟩
      rw [finishes_concat]
      exact List.mem_append_left _ hf
    rw [LLMEngine.run_concat] at hsg
    cases op with
    | addRequest prompt maxNewTokens now => exact hold hsg
    | cancelRequest id => exact hold (cancelRequest_finishedAt hw hsg hq hst)
    | checkTimeouts now => exact hold (checkTimeouts_finished hw now hsg hq hst)
    | step now =>
      rcases step_finished hw now hsg hq hst with hsame | ⟨f, hf, he⟩
      · exact hold hsame
      · refine ⟨f, ?_, he⟩
        rw [finishes_concat]
        exact List.mem_append_right _ hf

lemma mean_pos {values : List ℚ} (hnn : ∀ v ∈ values, 0 ≤ v) {v : ℚ} (hv : v ∈ values) (hpos : 0 < v) :
    0 < mean values := by
  have hne : values.isEmpty = false := by
    rw [List.isEmpty_eq_false_iff]
    exact List.ne_nil_of_mem hv
  have hlen : 0 < values.length := List.length_pos_of_mem hv
  rw [mean, if_neg (by simp [hne])]
  apply div_pos
  · exact hpos.trans_le (List.single_le_sum hnn v hv)
  · exact_mod_cast hlen

lemma WellFormed.due_blocks {s : CoreState ε} (hw : WellFormed S s) {rid : RequestId} {q : Sequence}
    (hq : s.queue.runningSeq rid = some q) (hdue : q.due) (hprompt : q.promptTokenIds ≠ [])
    (hmax : 1 ≤ q.samplingParams.maxTokens) : 0 < (s.blockManager.getBlockTable q.seqId).length := by
  have hcovered := hw.covered rid q hq
  have hlen : 0 < q.promptTokenIds.length := List.length_pos_of_ne_nil hprompt
  have hgen : q.samplingParams.maxTokens ≤ q.numGeneratedTokens := hdue
  have hkv : 0 < q.kvLen := by
    rcases hw.queue.runningSeq_phase hq with ⟨-, -, hzero, -⟩ | ⟨hst, -⟩
    · omega
    · rw [LivePhase.kvLen_running hst, decodePosition]
      omega
  by_contra hnone
  rw [Nat.eq_zero_of_not_pos hnone, Nat.zero_mul] at hcovered
  omega

lemma finishes_blocks (ops : List LLMEngine.Op) {f : Sequence × ℕ} (hf : f ∈ finishes S ops)
    (hprompt : f.1.promptTokenIds ≠ []) (hmax : 1 ≤ f.1.samplingParams.maxTokens) : 0 < f.2 := by
  induction ops using List.reverseRecOn with
  | nil => cases hf
  | append_singleton ops op ih =>
    rw [finishes_concat] at hf
    rcases List.mem_append.mp hf with hold | hnew
    · exact ih hold
    · cases op with
      | addRequest => cases hnew
      | cancelRequest => cases hnew
      | checkTimeouts => cases hnew
      | step now =>
        have hwb := beginStep_wellFormed (wellFormed_run S ops) now
        obtain ⟨q, hq, rfl⟩ := List.mem_map.mp hnew
        obtain ⟨hlive, hdue⟩ := List.mem_filter.mp hq
        exact hwb.due_blocks (hwb.queue.mem_liveSeqs.mp hlive) (of_decide_eq_true hdue) hprompt hmax

theorem avgUtilAtFinish_pos (ops : List LLMEngine.Op) {rid : RequestId} {sg : SequenceGroup} {q : Sequence}
    (hsg : (LLMEngine.run S ops).queue.finished.get? rid = some sg) (hq : q ∈ sg.seqs) (hst : q.status = .finished)
    (hprompt : q.promptTokenIds ≠ []) (hmax : 1 ≤ q.samplingParams.maxTokens) : 0 < avgUtilAtFinish S ops := by
  obtain ⟨f, hf, rfl⟩ := mem_finishes ops hsg hq hst
  have hblocks := finishes_blocks ops hf hprompt hmax
  have htokens : 0 < totalTokens f.1 := Nat.add_pos_left (List.length_pos_of_ne_nil hprompt) _
  apply mean_pos
  · intro v hv
    obtain ⟨f, -, rfl⟩ := List.mem_map.mp hv
    positivity
  · exact List.mem_map.mpr ⟨f, hf, rfl⟩
  · apply div_pos
    · exact_mod_cast htokens
    · exact_mod_cast hblocks

lemma registered_table (ops : List LLMEngine.Op) {q : Sequence} (hq : q ∈ (LLMEngine.run S ops).metrics.finishedSeqs) :
    (LLMEngine.run S ops).blockManager.getBlockTable q.seqId = [] := by
  have hw := wellFormed_run S ops
  obtain ⟨sg, hsg, -⟩ := (registry_run S ops).filed q hq
  have hrun := (hw.queue.dead_of_finished hsg).running
  apply BlockManager.getBlockTable_eq_nil
  intro hcontains
  obtain ⟨q', hq', -⟩ := (hw.tables q.seqId).mp hcontains
  rw [RequestQueue.runningSeq, hrun] at hq'
  cases hq'

theorem avgBlockUtil_eq_zero (S : Setup ε) (ops : List LLMEngine.Op) :
    (LLMEngine.run S ops).report.avgBlockUtilTokensPerBlock = 0 := by
  have hnone : (LLMEngine.run S ops).metrics.finished.filterMap (blockUtil (LLMEngine.run S ops).blockManager) = [] := by
    rw [List.filterMap_eq_nil_iff]
    intro q hq
    have htable := registered_table ops (List.mem_of_mem_filter hq)
    simp [blockUtil, htable]
  change avgBlockUtil _ _ = 0
  rw [avgBlockUtil, hnone]
  rfl

structure BlockUtilReported (S : Setup ε) (ops : List LLMEngine.Op) : Prop where
  average : (LLMEngine.run S ops).report.avgBlockUtilTokensPerBlock = avgUtilAtFinish S ops
  positive : 0 < (LLMEngine.run S ops).report.avgBlockUtilTokensPerBlock

theorem blockUtil_reported_iff (S : Setup ε) (ops : List LLMEngine.Op) :
    (FinishedSome (LLMEngine.run S ops).queue → BlockUtilReported S ops) ↔
      ¬ FinishedSome (LLMEngine.run S ops).queue := by
  constructor
  · intro h hsome
    have hpos := (h hsome).positive
    rw [avgBlockUtil_eq_zero] at hpos
    exact lt_irrefl 0 hpos
  · exact fun hnone hsome => absurd hsome hnone

theorem blockUtil_reported_zero : ¬ ∀ (config : Config) (blockHash : List ℕ → ℤ) (ops : List LLMEngine.Op),
    FinishedSome (LLMEngine.run (fakeSetup config blockHash) ops).queue →
      BlockUtilReported (fakeSetup config blockHash) ops := by
  intro h
  have hpos := (h Config.default codeHash [.addRequest ['a'] 1 0, .step 0, .step 0] (by decide +kernel)).positive
  revert hpos
  decide +kernel

end MiniVllm
