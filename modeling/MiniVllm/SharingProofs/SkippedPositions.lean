import MiniVllm.EngineProofs.Ages
import MiniVllm.SharingProofs.Hits

/-! The prompt positions that an admission skips: when their KV has been written by the end of the step. -/

namespace MiniVllm

open EngineCore ModelInputBuilder

variable {ε : Type}

def admittedSeqs (before after : RequestQueue) : List Sequence :=
  after.liveSeqs.filter (fun q => !before.running.contains q.seqId.request)

section Conditions

variable (S : Setup ε)

section Properties

variable (before queue : RequestQueue) (bm : BlockManager ε) (prefill decode : List Sequence)

def SkippedWritten : Prop :=
  ∀ q ∈ admittedSeqs before queue, ∀ r < q.prefillCursor,
    Written S.config (executeStep S queue bm prefill decode).2.2 q r

instance : Decidable (SkippedWritten S before queue bm prefill decode) :=
  inferInstanceAs (Decidable (∀ q ∈ _, ∀ r < _, _))

end Properties

/-- How many prompt tokens an admission takes from the cache: of a prompt that is cached whole, all but one chunk. -/
def skippedTokens (bm : BlockManager ε) (sg : SequenceGroup) : ℕ :=
  let cached := (bm.probePrefixCache S.blockParams sg.promptTokenIds).cachedTokenCount
  if cached = sg.promptTokenIds.length then cached - S.config.maxPrefillChunkSize else cached

def ComputedBy (qu : RequestQueue) (bm : BlockManager ε) (prompt : List ℕ) (i p n : ℕ) : Prop :=
  ∃ u ∈ qu.liveSeqs, (bm.getBlockTable u.seqId)[i]? = some p ∧ n ≤ u.kvLen ∧ u.tokens.take n = prompt.take n

/-- Every block that an admission takes tokens from has a live holder that has computed them for the same tokens. -/
def computedHits : CallCondition ε where
  admission qu bm sg := ∀ hit ∈ bm.matchedBlocks S.blockParams sg.promptTokenIds,
    hit.2 * S.config.blockSize < skippedTokens S bm sg →
      ComputedBy qu bm sg.promptTokenIds hit.2 hit.1
        (min ((hit.2 + 1) * S.config.blockSize) (skippedTokens S bm sg))

section Decidable

variable (qu : RequestQueue) (bm : BlockManager ε)

instance (prompt : List ℕ) (i p n : ℕ) : Decidable (ComputedBy qu bm prompt i p n) :=
  inferInstanceAs (Decidable (∃ u ∈ _, _ ∧ _ ∧ _))

instance (sg : SequenceGroup) : Decidable ((computedHits S).probe qu bm sg) := inferInstanceAs (Decidable True)

instance (sg : SequenceGroup) : Decidable ((computedHits S).admission qu bm sg) :=
  inferInstanceAs (Decidable (∀ hit ∈ _, _ → _))

instance (q : Sequence) (position : ℕ) : Decidable ((computedHits S).ensure qu bm q position) :=
  inferInstanceAs (Decidable True)

instance (prefill decode : List Sequence) : Decidable ((computedHits S).batch qu bm prefill decode) :=
  inferInstanceAs (Decidable True)

end Decidable

def AfterSchedule (P : RequestQueue → RequestQueue → BlockManager ε → List Sequence → List Sequence → Prop)
    (s : EngineState ε) (now : ℚ) : Prop :=
  ∀ result queue bm, Scheduler.schedule S (beginStep S s now).queue (beginStep S s now).blockManager =
    (.ok result, queue, bm) →
      P (beginStep S s now).queue queue bm (prefillSeqs queue result) (decodeSeqs queue result)

instance (P : RequestQueue → RequestQueue → BlockManager ε → List Sequence → List Sequence → Prop)
    [∀ before queue bm prefill decode, Decidable (P before queue bm prefill decode)] (s : EngineState ε) (now : ℚ) :
    Decidable (AfterSchedule S P s now) :=
  match h : Scheduler.schedule S (beginStep S s now).queue (beginStep S s now).blockManager with
  | (.error _, _, _) => isTrue fun _ _ _ he => by simp [h] at he
  | (.ok result, queue, bm) =>
    decidable_of_iff (P (beginStep S s now).queue queue bm (prefillSeqs queue result) (decodeSeqs queue result))
      ⟨fun hp _ _ _ he => by cases h.symm.trans he; exact hp, fun hp => hp result queue bm h⟩

end Conditions

def AllWritten (S : Setup ε) (s : CoreState ε) : Prop :=
  ∀ rid q, s.queue.runningSeq rid = some q → ∀ r < q.kvLen, Written S.config s.blockManager q r

section Step

variable {S : Setup ε} {c : CallCondition ε} {s s' : CoreState ε}

lemma AllWritten.of_ages {q q' : Sequence} {rid : RequestId} (h : AllWritten S s)
    (hq : s.queue.runningSeq rid = some q) (ha : Ages S.config s.blockManager q s'.blockManager q') :
    ∀ r < q'.kvLen, Written S.config s'.blockManager q' r := by
  intro r hr
  rcases Nat.lt_or_ge r q.kvLen with hlt | hge
  · exact ha.kept r hlt (h rid q hq r hlt)
  · exact ha.new r hge hr

lemma LivePhase.prefillCursor_le_kvLen {q : Sequence} (h : LivePhase q) : q.prefillCursor ≤ q.kvLen := by
  rcases h with ⟨hs, -⟩ | ⟨hs, hc, h₁, -⟩
  · rw [kvLen_prefill hs]
  · rw [kvLen_running hs, decodePosition, hc]
    omega

lemma admittedSeq_kvLen_le (bm : BlockManager ε) (sg : SequenceGroup) :
    (Scheduler.admittedSeq S bm sg).kvLen ≤ skippedTokens S bm sg := by
  have hcount := WellFormed.cachedTokenCount_eq bm S.blockParams sg.promptTokenIds
  simp only [Scheduler.admittedSeq, Sequence.kvLen, if_true, Scheduler.admissionCursor, Scheduler.admissionChunk,
    skippedTokens]
  split_ifs <;> omega

lemma WellFormed.tokens_admitted {sg : SequenceGroup} (bm : BlockManager ε) :
    (Scheduler.admittedSeq S bm sg).tokens = sg.promptTokenIds :=
  List.append_nil _

lemma AllWritten.admitted (hw : WellFormed S s) (h : AllWritten S s) {sg : SequenceGroup}
    (hc : (computedHits S).admission s.queue s.blockManager sg)
    {bm : BlockManager ε} (ha : BlockManager.Admits S.blockParams ⟨sg.requestId, 0⟩ sg.promptTokenIds s.blockManager bm)
    {r : ℕ} (hr : r < (Scheduler.admittedSeq S s.blockManager sg).kvLen) :
    Written S.config bm (Scheduler.admittedSeq S s.blockManager sg) r := by
  have hbs := S.config.blockSize_pos
  have hskip := hr.trans_le (admittedSeq_kvLen_le s.blockManager sg)
  have hmatched : r / S.config.blockSize <
      (s.blockManager.probePrefixCache S.blockParams sg.promptTokenIds).matchedPhysicalBlockIds.length :=
    (Nat.div_lt_iff_lt_mul hbs).mpr (hr.trans_le (WellFormed.admittedSeq_kvLen s.blockManager sg))
  have hblock := List.getElem?_eq_getElem hmatched
  have hlast : r + 1 ≤ min ((r / S.config.blockSize + 1) * S.config.blockSize) (skippedTokens S s.blockManager sg) :=
    le_min (Nat.succ_le_of_lt (Nat.lt_mul_of_div_lt (Nat.lt_succ_self _) hbs)) hskip
  have hcomputed : ComputedBy s.queue s.blockManager sg.promptTokenIds (r / S.config.blockSize) _ _ :=
    hc (_, r / S.config.blockSize) (List.mem_zipIdx_iff_getElem?.mpr hblock) ((Nat.div_mul_le_self r _).trans_lt hskip)
  obtain ⟨u, hu, hentry, hkv, htokens⟩ := hcomputed
  have hlive := hw.queue.mem_liveSeqs.mp hu
  have htake := congrArg (List.take (r + 1)) htokens
  simp only [List.take_take, Nat.min_eq_left hlast] at htake
  refine (h _ u hlive r (hlast.trans hkv)).mono ?_ ?_ fun e he => ?_
  · have hid : (Scheduler.admittedSeq S s.blockManager sg).seqId = ⟨sg.requestId, 0⟩ := rfl
    rw [ha.table, if_pos hid, hblock, hentry]
  · rw [WellFormed.tokens_admitted, htake]
  · rwa [BlockManager.sinceAllocated_congr ha.history]

theorem allWritten_step (hw : WellFormed S s) (h : AllWritten S s) (ht : Transition S (computedHits S) s s') :
    AllWritten S s' := by
  intro rid q' hq' r hr
  rcases ht.ages hw hq' with ⟨q, hq, ha⟩ | ⟨sg, -, -, hc, rfl, ha⟩
  · exact h.of_ages hq ha r hr
  · exact h.admitted hw hc ha hr

lemma Written.executed (hw : WellFormed S s) {prefill decode : List Sequence} {r : Except Exn Unit}
    {queue : RequestQueue} {bm : BlockManager ε} (hex : Executes S c s prefill decode r queue bm)
    (hreach : Reaches S c s ⟨queue, bm, s.seqGroupCount⟩) {rid : RequestId} {q : Sequence}
    (hq : s.queue.runningSeq rid = some q) {p : ℕ} (hp : p < q.kvLen) (h : Written S.config s.blockManager q p) :
    Written S.config bm q p := by
  have hlive : ∃ q', queue.runningSeq rid = some q' := by
    cases hex with
    | kept => exact ⟨q, hq⟩
    | done _ _ _ _ _ _ hrun => exact ⟨_, by rw [RequestQueue.runningSeq_map hrun, hq, Option.map_some]⟩
  obtain ⟨q', hq'⟩ := hlive
  rcases Reaches.ages hw hreach hq' with ⟨q₀, hq₀, ha⟩ | ⟨hn, -⟩
  · obtain rfl : q = q₀ := Option.some.inj (hq.symm.trans hq₀)
    have hlen := (hw.queue.runningSeq_phase hq).kvLen_le_tokens
    exact (ha.kept p hp h).mono (by rw [ha.seqId]) (take_of_isPrefix ha.tokens (by omega)).symm fun _ he => he
  · rw [hq] at hn
    cases hn

variable (S)

theorem skipped_positions_written (ops : List LLMEngine.Op) (now : ℚ)
    (hrun : (computedHits S).Run S (ops ++ [.step now])) :
    AfterSchedule S (SkippedWritten S) (LLMEngine.run S ops) now := by
  intro result queue bm hsched q hq r hr
  obtain ⟨hops, hlast, -⟩ := (StepCondition.runFrom_append _ _ ops [.step now]).mp hrun
  have hwf := wellFormed_run S ops
  have hb := beginStep_refines (c := computedHits S) hwf now
  have hw₀ := hwf.reaches hb
  obtain ⟨⟨result', queue', bm', hsched', hreach, hscheduled⟩, -⟩ := schedule_refines hw₀ hlast.1
  cases hsched.symm.trans hsched'
  have hwritten : AllWritten S ⟨queue, bm, (beginStep S (LLMEngine.run S ops) now).seqGroupCount⟩ :=
    run_invariant (I := AllWritten S) (fun _ _ h => by cases h) (fun _ _ hw hi ht => allWritten_step hw hi ht)
      (((run_refines hops).trans hb).trans hreach)
  have hw₁ := hw₀.reaches hreach
  have hlive := hw₁.queue.mem_liveSeqs.mp (List.mem_of_mem_filter hq)
  have hkv := hr.trans_le (hw₁.queue.runningSeq_phase hlive).prefillCursor_le_kvLen
  obtain ⟨hreach₂, hvisit⟩ := executeStep_refines (c := {}) hw₁ Relation.ReflTransGen.refl
    (fun q hm => mem_prefillSeqs hw₁.queue hm) (fun q hm => mem_decodeSeqs hw₁.queue hscheduled hm)
    (nodup_batch hw₁.queue hscheduled)
    (fun _ => execute_of_forall (fun _ _ _ _ => trivial) (fun _ _ _ _ => trivial) _ _ _ _)
  exact Written.executed hw₁ (executeStep_spec hw₁ hvisit) hreach₂ hlive hkv (hwritten _ q hlive r hkv)

theorem skipped_positions_written_of_computed_block :
    ((LLMEngine.run oneTokenSetup [.addRequest ['a', 'b'] 3 0, .step 0,
        .addRequest ['a', 'c'] 3 0]).blockManager.probePrefixCache oneTokenSetup.blockParams
          (oneTokenSetup.executor.tokenize ['a', 'c'])).matchedPhysicalBlockIds = [0] ∧
    AfterSchedule oneTokenSetup (SkippedWritten oneTokenSetup)
      (LLMEngine.run oneTokenSetup
        [.addRequest ['a', 'b'] 3 0, .step 0, .addRequest ['a', 'c'] 3 0]) 0 :=
  ⟨by decide +kernel, skipped_positions_written oneTokenSetup
    [.addRequest ['a', 'b'] 3 0, .step 0, .addRequest ['a', 'c'] 3 0] 0 (by decide +kernel)⟩

theorem unwritten_positions_skipped : ¬ ∀ (config : Config) (blockHash : List ℕ → ℤ),
    Function.Injective blockHash → config.enablePrefixCaching = true → ∀ (ops : List LLMEngine.Op) (now : ℚ),
      AfterSchedule (fakeSetup config blockHash) (SkippedWritten (fakeSetup config blockHash))
        (LLMEngine.run (fakeSetup config blockHash) ops) now := by
  intro h
  have hstep := h { maxPrefillChunkSize := 1 } codeHash codeHash_injective rfl
    [.addRequest ['a', 'b', 'c', 'd'] 3 0, .step 0, .addRequest ['a', 'b', 'c', 'd'] 3 0] 0
  revert hstep
  decide +kernel

end Step

end MiniVllm
