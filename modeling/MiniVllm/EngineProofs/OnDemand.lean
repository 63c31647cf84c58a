import MiniVllm.EngineProofs.Effect
import MiniVllm.EngineProofs.Growth
import MiniVllm.EngineProofs.RefCounts
import MiniVllm.EngineProofs.Writes
import MiniVllm.Serving.Gates
import MiniVllm.SharingProofs.Hits
import Mathlib.Algebra.Order.Floor.Div

/-! Without prefix caching a table has the blocks of the computed positions, and no others. -/

namespace MiniVllm

open BlockManager EngineCore

variable {ε : Type} {S : Setup ε}

def Sequence.kvBlocks (config : Config) (q : Sequence) : ℕ := q.kvLen ⌈/⌉ config.blockSize

structure OnDemand (config : Config) (s : EngineState ε) : Prop where
  table : ∀ q ∈ s.queue.liveSeqs, (s.blockManager.getBlockTable q.seqId).length = q.kvBlocks config
  used : s.blockManager.allocator.numUsedBlocks = (s.queue.liveSeqs.map (·.kvBlocks config)).sum
  needed : ∀ sg ∈ s.queue.running.values, 0 ≤ sg.samplingParams.maxTokens → ∀ q ∈ sg.getUnfinishedSeqs,
    (q.kvBlocks config : ℤ) ≤
      AdmissionControl.neededBlocks config sg.promptTokenIds.length sg.samplingParams.maxTokens

def Tight (config : Config) (s : CoreState ε) : Prop :=
  ∀ rid q, s.queue.runningSeq rid = some q →
    (s.blockManager.getBlockTable q.seqId).length ≤ q.kvBlocks config

def Unshared (s : CoreState ε) : Prop := ∀ p, s.blockManager.allocator.getRefCount p ≤ 1

def noEnsure : CallCondition ε where
  ensure _ _ _ _ := False

section Blocks

variable {config : Config} {q q' : Sequence}

lemma kvBlocks_mono (h : q.kvLen ≤ q'.kvLen) : q.kvBlocks config ≤ q'.kvBlocks config :=
  (gc_mul_ceilDiv config.blockSize_pos).monotone_l h

lemma kvBlocks_le_length {length : ℕ} (h : q.kvLen ≤ length * config.blockSize) : q.kvBlocks config ≤ length := by
  apply (ceilDiv_le_iff_le_mul config.blockSize_pos).mpr
  rwa [Nat.mul_comm]

lemma kvBlocks_le_needed (hp : LivePhase q) (hmax : 0 ≤ q.samplingParams.maxTokens) : (q.kvBlocks config : ℤ) ≤
    AdmissionControl.neededBlocks config q.promptTokenIds.length q.samplingParams.maxTokens := by
  have hpos := config.blockSize_pos
  have hlen : (q.kvLen : ℤ) ≤ q.promptTokenIds.length + q.samplingParams.maxTokens := by
    rcases hp with ⟨hst, -, -, hcursor⟩ | ⟨hst, -, hgen, -, hle⟩
    · rw [LivePhase.kvLen_prefill hst]
      omega
    · rw [LivePhase.kvLen_running hst, decodePosition]
      omega
  rw [Sequence.kvBlocks, Nat.ceilDiv_eq_add_pred_div, AdmissionControl.neededBlocks, Int.natCast_ediv]
  apply Int.ediv_le_ediv (by omega)
  omega

end Blocks

section Transition

variable {c : CallCondition ε} {s s' : CoreState ε} (hoff : S.config.enablePrefixCaching = false) (hw : WellFormed S s)

include hoff hw

lemma Unshared.step (h : Unshared s) (ht : Transition S c s s') : Unshared s' := by
  have hoff' : S.blockParams.enablePrefixCaching = false := hoff
  cases hw.effect ht with
  | idle => exact h
  | requeue => exact h
  | cleanup => exact h
  | failed => exact h
  | done => exact h
  | retire sg q status bm hid hseqs hlive hstatus hf =>
    intro p
    have hle := h p
    simp only [hf.refCount]
    omega
  | admission sg bm hwait hfresh hc ha =>
    intro p
    simp only [ha.refCount, probe_off hoff', List.count_nil, Nat.cast_zero, add_zero]
    exact h p
  | hit q position hash p bm hready hc hlen hhash =>
    simp [promptHash, hoff'] at hhash
  | miss q position p bm hready hc hlen hmiss htakes =>
    intro r
    simp only [htakes.refCount]
    split_ifs
    · exact le_refl 1
    · exact h r

lemma Tight.step (h : Tight S.config s) (ht : Transition S noEnsure s s') : Tight S.config s' := by
  have hoff' : S.blockParams.enablePrefixCaching = false := hoff
  cases hw.effect ht with
  | idle => exact h
  | cleanup => exact h
  | failed => exact h
  | hit _ _ _ _ _ _ hc => exact hc.elim
  | miss _ _ _ _ _ hc => exact hc.elim
  | requeue queue n hrun =>
    intro rid q hq
    apply h rid q
    rw [RequestQueue.runningSeq, ← hrun]
    exact hq
  | retire sg q status bm hid hseqs hlive hstatus hf =>
    intro rid q' hq'
    simp only [RequestQueue.runningSeq_markFinished] at hq'
    simp only [hf.table]
    split_ifs at hq' ⊢
    · exact Nat.zero_le _
    · exact h rid q' hq'
  | admission sg bm hwait hfresh hc ha =>
    intro rid q hq
    simp only [hw.runningSeq_admission hwait] at hq
    simp only [ha.table]
    split_ifs at hq with hr
    · cases hq
      have hid : (Scheduler.admittedSeq S s.blockManager sg).seqId = ⟨sg.requestId, 0⟩ := rfl
      rw [if_pos hid, probe_off hoff']
      exact Nat.zero_le _
    · rw [if_neg (hw.queue.seqId_ne hq hr)]
      exact h rid q hq
  | done prefill decode output x queue hready hc hexec hwt hfn hrj hrun =>
    intro rid q hq
    rw [RequestQueue.runningSeq_map hrun] at hq
    obtain ⟨q₀, hlive, rfl⟩ := Option.map_eq_some_iff.mp hq
    rw [afterBatch_seqId]
    exact (h rid q₀ hlive).trans (kvBlocks_mono (kvLen_le_afterBatch hw.queue hready _ hlive))

lemma Tight.reaches (h : Tight S.config s) (hr : Reaches S noEnsure s s') : Tight S.config s' := by
  induction hr with
  | refl => exact h
  | tail hr ht ih => exact ih.step hoff (hw.reaches hr) ht

end Transition

lemma Ensures.length_le_of_lt {P : BlockParams ε} {q : Sequence} {position : ℕ} {bm bm' : BlockManager ε}
    {r : Except Exn (Option ℕ)} (h : Ensures P q position bm r bm') (hpos : 0 < P.blockSize) {sid : SeqId} {m : ℕ}
    (hlt : q.seqId = sid → position < m) (hle : (bm.getBlockTable sid).length ≤ m ⌈/⌉ P.blockSize) :
    (bm'.getBlockTable sid).length ≤ m ⌈/⌉ P.blockSize := by
  have hgrow : ∀ p, position / P.blockSize = (bm.getBlockTable q.seqId).length →
      bm'.getBlockTable sid = (if sid = q.seqId then bm.getBlockTable q.seqId ++ [p] else bm.getBlockTable sid) →
      (bm'.getBlockTable sid).length ≤ m ⌈/⌉ P.blockSize := by
    intro p hlen ht
    rw [ht]
    split_ifs with hs
    · rw [List.length_append, List.length_singleton, ← hlen, Nat.ceilDiv_eq_add_pred_div]
      exact div_lt_blocks hpos (hlt hs.symm)
    · exact hle
  cases h with
  | covered => exact hle
  | outOfMemory => exact hle
  | hit _ p _ hlen _ _ hs => exact hgrow p hlen (hs.table sid)
  | miss p _ hlen _ ht => exact hgrow p hlen (ht.table sid)

section Execute

variable {c : CallCondition ε} {s : CoreState ε} (hw : WellFormed S s)

include hw

lemma ensureLoop_length_le {calls : List (Sequence × ℕ)} {bm : BlockManager ε} {sid : SeqId} {m : ℕ}
    (hvisit : ForEachAll (fun bm call => (c.visited S s).ensure s.queue bm call.1 call.2) (ensureStep S)
      s.blockManager calls)
    (hcalls : ∀ call ∈ calls, call.1.seqId = sid → call.2 < m)
    (hle : (s.blockManager.getBlockTable sid).length ≤ m ⌈/⌉ S.config.blockSize)
    (hloop : forEach (ensureStep S) s.blockManager calls = (.ok (), bm)) :
    (bm.getBlockTable sid).length ≤ m ⌈/⌉ S.config.blockSize := by
  have hstep : ∀ bm call rest bm',
      ((∀ x ∈ call :: rest, x.1.seqId = sid → x.2 < m) ∧
        (bm.getBlockTable sid).length ≤ m ⌈/⌉ S.config.blockSize) →
      (c.visited S s).ensure s.queue bm call.1 call.2 → ensureStep S bm call = (.ok (), bm') →
      (∀ x ∈ rest, x.1.seqId = sid → x.2 < m) ∧
        (bm'.getBlockTable sid).length ≤ m ⌈/⌉ S.config.blockSize := by
    rintro bm call rest bm' ⟨hm, hlen⟩ ⟨-, hreach, hready⟩ hcall
    refine ⟨fun x hx => hm x (List.mem_cons_of_mem call hx), ?_⟩
    have hspec := (hw.reaches hreach).ensures hready
    have hbm : (bm.ensureBlock S.blockParams call.1 call.2).2 = bm' := by
      rw [ensureStep] at hcall
      split at hcall
      · cases hcall
      · rename_i he
        cases hcall
        rw [he]
    rw [hbm] at hspec
    exact Ensures.length_le_of_lt hspec S.config.blockSize_pos (hm call (by simp)) hlen
  have hrule := forEach_rule (J := fun _ => True)
    (I := fun bm rest => (∀ x ∈ rest, x.1.seqId = sid → x.2 < m) ∧
      (bm.getBlockTable sid).length ≤ m ⌈/⌉ S.config.blockSize)
    hstep (fun _ _ _ _ _ _ _ _ => trivial) ⟨hcalls, hle⟩ hvisit
  exact (hrule.1 bm hloop).2

lemma Tight.executeStep (h : Tight S.config s) {prefill decode : List Sequence}
    (hvisit : (prefill.isEmpty && decode.isEmpty) = false →
      (c.visited S s).Execute S s.queue s.blockManager prefill decode) {queue : RequestQueue} {bm : BlockManager ε}
    (hrun : EngineCore.executeStep S s.queue s.blockManager prefill decode = (.ok (), queue, bm)) :
    Tight S.config ⟨queue, bm, s.seqGroupCount⟩ := by
  cases hempty : prefill.isEmpty && decode.isEmpty with
  | true =>
    simp only [EngineCore.executeStep, hempty, if_true] at hrun
    cases hrun
    exact h
  | false =>
    obtain ⟨hensure, hbatch⟩ := hvisit hempty
    simp only [EngineCore.executeStep, hempty, Bool.false_eq_true, if_false] at hrun
    cases hloop : forEach (ensureStep S) s.blockManager (ensureCalls S.config prefill decode) with
    | mk r bm₁ =>
      rw [hloop] at hbatch hrun
      cases r with
      | error err => cases hrun
      | ok u =>
        obtain ⟨-, hreach, hready⟩ := hbatch
        have hwb := hw.reaches hreach
        obtain ⟨r, queue', bm', hran, hspec⟩ := hwb.runBatch_cases hready
        simp only at hran hrun
        rw [hran] at hrun
        cases hrun
        cases hspec with
        | done output x _ hexec hwt hfn hrj hrunning =>
          intro rid q hq
          rw [RequestQueue.runningSeq_map hrunning] at hq
          obtain ⟨q₀, hlive, rfl⟩ := Option.map_eq_some_iff.mp hq
          rw [afterBatch_seqId]
          change (bm₁.getBlockTable q₀.seqId).length ≤ _
          refine ensureLoop_length_le hw hensure (fun call hm hid => ?_) ?_ hloop
          · obtain rfl := hw.queue.runningSeq_ext (hready.call hm).1 hlive hid
            exact hready.call_lt hw.queue _ hm
          · exact (h rid q₀ hlive).trans (kvBlocks_mono (kvLen_le_afterBatch hw.queue hready _ hlive))

end Execute

section Runs

variable (hoff : S.config.enablePrefixCaching = false)

include hoff

lemma Tight.engineStep {s : EngineState ε} (hw : WellFormed S s.core) (h : Tight S.config s.core) {now : ℚ}
    (hok : Succeeds S s now) : Tight S.config (LLMEngine.step S s now).2.core := by
  obtain ⟨hresult, hcore⟩ := LLMEngine.step_result (S := S) s now
  rw [Succeeds, hresult] at hok
  rw [hcore]
  have hwb := beginStep_wellFormed hw now
  have hbegin := h.reaches hoff hw (beginStep_refines hw now)
  have hschedule : noEnsure.Schedule S (beginStep S s now).core.queue (beginStep S s now).core.blockManager :=
    schedule_of_forall (fun _ _ _ => trivial) (fun _ _ _ => trivial) _ _
  obtain ⟨⟨result, queue, bm, hsched, hreach, hscheduled⟩, -⟩ := schedule_refines hwb hschedule
  have hws := hwb.reaches hreach
  have htight := hbegin.reaches hoff hwb hreach
  have hsched' : Scheduler.schedule S (beginStep S s now).queue (beginStep S s now).blockManager =
      (.ok result, queue, bm) := hsched
  obtain ⟨hran, hvisit⟩ := executeStep_refines (c := {}) hws .refl (fun q hm => mem_prefillSeqs hws.queue hm)
    (fun q hm => mem_decodeSeqs hws.queue hscheduled hm) (nodup_batch hws.queue hscheduled)
    fun _ => execute_of_forall (fun _ _ _ _ => trivial) (fun _ _ _ _ => trivial) _ _ _ _
  simp only [EngineCore.step, hsched'] at hok ⊢
  cases he : EngineCore.executeStep S queue bm (prefillSeqs queue result) (decodeSeqs queue result) with
  | mk r rest =>
    obtain ⟨queue', bm'⟩ := rest
    rw [he] at hok
    cases r with
    | error err => cases hok
    | ok u =>
      rw [he] at hran
      have hexec := htight.executeStep hws hvisit he
      exact hexec.reaches hoff (hws.reaches hran) (cleanupFinished_refines
        { beginStep S s now with queue := queue', blockManager := bm' } result)

lemma tight_run (ops : List LLMEngine.Op) (h : (Succeeds S).Run S ops) :
    Tight S.config (LLMEngine.run S ops).core := by
  induction ops using List.reverseRecOn with
  | nil =>
    intro rid q hq
    cases hq
  | append_singleton ops op ih =>
    obtain ⟨hops, hlast, -⟩ := (StepCondition.runFrom_append _ _ ops [op]).mp h
    have hw := wellFormed_run S ops
    have hbefore := ih hops
    rw [LLMEngine.run_concat]
    have hother : noEnsure.Apply S (LLMEngine.run S ops) op →
        Tight S.config (LLMEngine.apply S (LLMEngine.run S ops) op).core :=
      fun hop => hbefore.reaches hoff hw (apply_refines hw hop)
    cases op with
    | step now => exact hbefore.engineStep hoff hw hlast
    | addRequest => exact hother trivial
    | cancelRequest => exact hother trivial
    | checkTimeouts => exact hother trivial

lemma unshared_run (ops : List LLMEngine.Op) : Unshared (LLMEngine.run S ops).core := by
  have hinit : Unshared (LLMEngine.initial S).core := by
    intro p
    rw [(WellFormed.initial S).balanced.refs p]
    exact Int.zero_le_ofNat 1
  exact run_invariant (c := {}) hinit (fun s s' hw hi ht => hi.step hoff hw ht) (run_refines (runFrom_true _ ops))

omit hoff in
lemma total_tables_eq (ops : List LLMEngine.Op) :
    (LLMEngine.run S ops).blockManager.tables.total (fun t => t.getBlockIds.length) =
      ((LLMEngine.run S ops).queue.liveSeqs.map
        (fun q => ((LLMEngine.run S ops).blockManager.getBlockTable q.seqId).length)).sum := by
  have hq : QueueFormed (LLMEngine.run S ops).queue (LLMEngine.run S ops).seqGroupCount := (wellFormed_run S ops).queue
  rw [Dict.total_eq_sum _ _ (nodup_liveSeqs hq), List.map_map]
  · refine congrArg List.sum (List.map_congr_left fun q _ => ?_)
    simp only [Function.comp_apply, getBlockTable, getTable]
    cases (LLMEngine.run S ops).blockManager.tables.get? q.seqId with
    | none => rfl
    | some t => rfl
  · intro sid
    rw [contains_iff_live, List.mem_map]

theorem onDemand_exact (ops : List LLMEngine.Op) (h : (Succeeds S).Run S ops) :
    OnDemand S.config (LLMEngine.run S ops) := by
  have hw := wellFormed_run S ops
  have hq : QueueFormed (LLMEngine.run S ops).queue (LLMEngine.run S ops).seqGroupCount := hw.queue
  have htable : ∀ q ∈ (LLMEngine.run S ops).queue.liveSeqs,
      ((LLMEngine.run S ops).blockManager.getBlockTable q.seqId).length = q.kvBlocks S.config := by
    intro q hm
    have hlive := hq.mem_liveSeqs.mp hm
    apply le_antisymm
    · exact tight_run hoff ops h _ q hlive
    · exact kvBlocks_le_length (hw.covered _ q hlive)
  refine ⟨htable, ?_, fun sg hsg hmax q hm => ?_⟩
  · have hused := hw.balanced.numUsedBlocks_eq (unshared_run hoff ops)
    exact (hused.trans (total_tables_eq ops)).trans (congrArg List.sum (List.map_congr_left htable))
  · obtain ⟨rid, hget⟩ := (Dict.mem_values _ sg).mp hsg
    obtain ⟨-, -, q', hseqs, hl⟩ := hq.running rid sg hget
    rw [hq.unfinished_eq hget, hseqs] at hm
    obtain rfl := List.mem_singleton.mp hm
    rw [← hl.params] at hmax ⊢
    rw [← hl.prompt]
    exact kvBlocks_le_needed hl.phase hmax

end Runs

def onDemandConfig : Config := { Config.default with enablePrefixCaching := false }

theorem onDemand_exact_of_two : OnDemand onDemandConfig (LLMEngine.run (fakeSetup onDemandConfig codeHash)
    [.addRequest ['a', 'b', 'c', 'd', 'e'] 3 0, .addRequest ['a', 'b'] 4 0, .step 0, .step 0, .step 0]) :=
  onDemand_exact (S := fakeSetup onDemandConfig codeHash) rfl _ (by decide +kernel)

end MiniVllm
