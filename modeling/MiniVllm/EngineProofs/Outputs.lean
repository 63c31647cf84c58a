import MiniVllm.EngineProofs.Effect
import MiniVllm.EngineProofs.Pools

/-! The length of the outputs beside what the requests ask for. -/

namespace MiniVllm

open EngineCore

variable {ε : Type} {S : Setup ε}

def zeroSpared (config : Config) : CallCondition ε where
  batch _ _ prefill _ := ∀ q ∈ prefill, q.promptTokenIds ≠ [] → q.samplingParams.maxTokens = 0 →
    chunkEnd config q ≠ q.promptTokenIds.length

namespace Sequence

def Asks (q : Sequence) : Prop := q.promptTokenIds ≠ [] ∧ 0 ≤ q.samplingParams.maxTokens

structure WithinMax (q : Sequence) : Prop where
  le_max : (q.outputTokenIds.length : ℤ) ≤ q.samplingParams.maxTokens
  eq_max : q.status = .finished → (q.outputTokenIds.length : ℤ) = q.samplingParams.maxTokens

lemma WithinMax.of_live {q : Sequence} (hp : LivePhase q)
    (hle : (q.outputTokenIds.length : ℤ) ≤ q.samplingParams.maxTokens) : q.WithinMax := by
  refine ⟨hle, fun hst => ?_⟩
  rcases hp.status with h | h <;> cases h.symm.trans hst

lemma WithinMax.retire {q : Sequence} {status : Status} (h : q.WithinMax) (hp : LivePhase q)
    (hr : Retirement q status) : ({ q with status := status } : Sequence).WithinMax := by
  refine ⟨h.le_max, fun hst => ?_⟩
  have hle := h.le_max
  cases hr with
  | finished hdue =>
    have hlen : q.numGeneratedTokens = q.outputTokenIds.length := by
      rcases hp with ⟨-, hout, hgen, -⟩ | ⟨-, -, -, hlen, -⟩
      · rw [hout, hgen, List.length_nil]
      · exact hlen
    rw [hlen] at hdue
    exact le_antisymm hle hdue
  | cancelled => cases hst
  | timeout => cases hst

end Sequence

structure OutputsWithin (s : CoreState ε) : Prop where
  running : ∀ rid q, s.queue.runningSeq rid = some q → q.Asks → q.WithinMax
  finished : ∀ rid sg, s.queue.finished.get? rid = some sg → ∀ q ∈ sg.seqs, q.Asks → q.WithinMax

lemma withinMax_afterBatch {queue : RequestQueue} {n : ℕ} {bm : BlockManager ε} {prefill decode : List Sequence}
    (hq : QueueFormed queue n) (hr : BatchReady S.config queue bm prefill decode)
    (hc : (zeroSpared S.config).batch queue bm prefill decode) (token : SeqId → ℕ) {rid : RequestId} {q : Sequence}
    (hlive : queue.runningSeq rid = some q) (hasks : q.Asks) (h : q.WithinMax) :
    (afterBatch S.config (prefill.map (·.seqId)) (decode.map (·.seqId)) token q).WithinMax := by
  have hphase := afterBatch_phase hq hr token hlive
  refine .of_live hphase ?_
  have hle := h.le_max
  by_cases hp : q ∈ prefill
  · by_cases hend : chunkEnd S.config q = q.promptTokenIds.length
    · have hne : q.samplingParams.maxTokens ≠ 0 := fun hzero => hc q hp hasks.1 hzero hend
      have hpos := hasks.2
      rw [afterBatch_completed hq hr token hlive hp hend]
      simp only [List.length_singleton]
      omega
    · rw [afterBatch_chunk hq hr token hlive hp hend]
      exact hle
  · by_cases hd : q ∈ decode
    · obtain ⟨-, hst, hlt⟩ := hr.decode_live q hd
      have hlen := ((hq.runningSeq_phase hlive).decode hst).2.2
      rw [afterBatch_decode hq hr token hlive hd]
      simp only [List.length_append, List.length_singleton]
      omega
    · rw [afterBatch_idle hq hr token hlive hp hd]
      exact hle

theorem OutputsWithin.step {s s' : CoreState ε} (hw : WellFormed S s) (h : OutputsWithin s)
    (ht : Transition S (zeroSpared S.config) s s') : OutputsWithin s' := by
  cases hw.effect ht with
  | idle => exact h
  | requeue queue n hrun hfin =>
    refine ⟨fun rid q hq => ?_, fun rid sg hsg q hq => ?_⟩
    · apply h.running rid q
      rw [RequestQueue.runningSeq, ← hrun]
      exact hq
    · rcases hfin rid sg hsg with hold | hnil
      · exact h.finished rid sg hold q hq
      · rw [hnil] at hq
        cases hq
  | cleanup => exact ⟨h.running, h.finished⟩
  | failed => exact ⟨h.running, h.finished⟩
  | hit => exact ⟨h.running, h.finished⟩
  | miss => exact ⟨h.running, h.finished⟩
  | retire sg q status bm hid hseqs hlive hstatus hf =>
    refine ⟨fun rid q' hq' => ?_, fun rid sg' hsg' q' hq' => ?_⟩
    · rw [RequestQueue.runningSeq_markFinished] at hq'
      split_ifs at hq'
      exact h.running rid q' hq'
    · rcases Dict.get?_set_some hsg' with ⟨-, rfl⟩ | hold
      · obtain rfl := List.mem_singleton.mp hq'
        exact fun hasks => (h.running _ q hlive hasks).retire (hw.queue.runningSeq_phase hlive) hstatus
      · exact h.finished rid sg' hold q' hq'
  | admission sg bm hwait hfresh hc ha =>
    refine ⟨fun rid q hq => ?_, h.finished⟩
    rw [hw.runningSeq_admission hwait] at hq
    split_ifs at hq
    · cases hq
      intro hasks
      refine .of_live (WellFormed.admittedSeq_live s.blockManager sg).phase ?_
      exact hasks.2
    · exact h.running rid q hq
  | done prefill decode output x queue hready hc hexec hwt hfn hrj hrun =>
    refine ⟨fun rid q hq hasks => ?_, fun rid sg hsg => ?_⟩
    · rw [RequestQueue.runningSeq_map hrun] at hq
      obtain ⟨q₀, hlive, rfl⟩ := Option.map_eq_some_iff.mp hq
      rw [Sequence.Asks, afterBatch_prompt, afterBatch_params] at hasks
      exact withinMax_afterBatch hw.queue hready hc _ hlive hasks (h.running rid q₀ hlive hasks)
    · have hold : s.queue.finished.get? rid = some sg := by
        rw [← hfn]
        exact hsg
      exact h.finished rid sg hold

def RequestQueue.RespectsMaxTokens (qu : RequestQueue) : Prop :=
  ∀ p, ∀ sg ∈ (qu.pool p).values, ∀ q ∈ sg.seqs, q.promptTokenIds ≠ [] → 0 ≤ q.samplingParams.maxTokens →
    (q.outputTokenIds.length : ℤ) ≤ q.samplingParams.maxTokens ∧
      (q.status = .finished → (q.outputTokenIds.length : ℤ) = q.samplingParams.maxTokens)

theorem outputs_within (S : Setup ε) (ops : List LLMEngine.Op) (h : (zeroSpared S.config).Run S ops) :
    (LLMEngine.run S ops).queue.RespectsMaxTokens := by
  intro p sg hsg q hq hprompt hmax
  obtain ⟨rid, hsg⟩ := (Dict.mem_values _ sg).mp hsg
  have hformed : QueueFormed (LLMEngine.run S ops).queue (LLMEngine.run S ops).seqGroupCount :=
    (wellFormed_run S ops).queue
  have hinit : OutputsWithin (LLMEngine.initial S).core :=
    ⟨fun rid q hq => (by cases hq), fun rid sg hsg => (by cases hsg)⟩
  have hwithin : OutputsWithin (LLMEngine.run S ops).core :=
    run_invariant hinit (fun s s' hw hi ht => hi.step hw ht) (run_refines h)
  have hlaw : q.WithinMax := by
    cases p with
    | waiting =>
      rw [(hformed.waiting rid sg hsg).2.2] at hq
      cases hq
    | running =>
      obtain ⟨-, -, q', hseqs, -⟩ := hformed.running rid sg hsg
      rw [hseqs] at hq
      obtain rfl := List.mem_singleton.mp hq
      exact hwithin.running rid q (hformed.runningSeq_eq_some.mpr ⟨sg, hsg, hseqs⟩) ⟨hprompt, hmax⟩
    | finished => exact hwithin.finished rid sg hsg q hq ⟨hprompt, hmax⟩
    | rejected =>
      rw [(hformed.rejected rid sg hsg).2.2] at hq
      cases hq
  exact ⟨hlaw.le_max, hlaw.eq_max⟩

section Decidable

variable (config : Config) (queue : RequestQueue) (bm : BlockManager ε)

instance (sg : SequenceGroup) : Decidable ((zeroSpared config).probe queue bm sg) := inferInstanceAs (Decidable True)

instance (sg : SequenceGroup) : Decidable ((zeroSpared config).admission queue bm sg) :=
  inferInstanceAs (Decidable True)

instance (q : Sequence) (position : ℕ) : Decidable ((zeroSpared config).ensure queue bm q position) :=
  inferInstanceAs (Decidable True)

instance (prefill decode : List Sequence) : Decidable ((zeroSpared config).batch queue bm prefill decode) :=
  inferInstanceAs (Decidable (∀ q ∈ prefill, _ → _ → _))

end Decidable

def twoRequests : List LLMEngine.Op :=
  [.addRequest ['a'] 1 0, .addRequest ['a', 'b', 'c', 'd', 'e'] 0 0, .step 0, .step 0]

theorem outputs_within_of_two :
    (LLMEngine.run (fakeSetup .default codeHash) twoRequests).queue.RespectsMaxTokens :=
  outputs_within (fakeSetup .default codeHash) twoRequests (by decide +kernel)

theorem no_tokens_asked_one_given :
    ¬ ∀ (config : Config) (blockHash : List ℕ → ℤ) (ops : List LLMEngine.Op),
      (LLMEngine.run (fakeSetup config blockHash) ops).queue.RespectsMaxTokens := by
  intro h
  have hall := h .default codeHash [.addRequest ['a'] 0 0, .step 0] .running
  revert hall
  decide +kernel

end MiniVllm
