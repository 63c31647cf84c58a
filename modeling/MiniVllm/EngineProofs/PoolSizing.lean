import MiniVllm.EngineProofs.Growth
import MiniVllm.EngineProofs.Termination
import MiniVllm.SchedulerProofs.Seats

/-! A block pool with a share for every seat: no step of such an engine raises. -/

namespace MiniVllm

open EngineCore

variable {ε : Type} {S : Setup ε}

def Sequence.blockLimit (config : Config) (q : Sequence) : ℕ :=
  MiniVllm.blockLimit config q.promptTokenIds.length q.samplingParams.maxTokens

def WithinLimits (config : Config) (s : CoreState ε) : Prop :=
  ∀ rid q, s.queue.runningSeq rid = some q → (s.blockManager.getBlockTable q.seqId).length ≤ q.blockLimit config

def orderly (S : Setup ε) : CallCondition ε where
  admission qu _ _ := qu.numRunning < S.config.maxNumSeqs
  ensure _ _ q _ := q.status = .running → (q.numGeneratedTokens : ℤ) < q.samplingParams.maxTokens

def ensuresSucceed (S : Setup ε) : CallCondition ε where
  ensure _ bm q position := ∃ pid, (bm.ensureBlock S.blockParams q position).1 = .ok pid

def batchesSucceed (S : Setup ε) : CallCondition ε where
  batch _ bm prefill decode := ∃ output, (S.executor.execute (batchInput S.config bm prefill decode) bm).1 = .ok output

lemma matched_le_blockLimit (bm : BlockManager ε) (sg : SequenceGroup) :
    (bm.probePrefixCache S.blockParams sg.promptTokenIds).matchedPhysicalBlockIds.length ≤
      (Scheduler.admittedSeq S bm sg).blockLimit S.config := by
  have hprompt : numPromptBlocks S.config.blockSize sg.promptTokenIds ≤
      (Scheduler.admittedSeq S bm sg).blockLimit S.config := by
    apply Nat.div_le_div_right
    have hlen : (Scheduler.admittedSeq S bm sg).promptTokenIds = sg.promptTokenIds := rfl
    rw [hlen]
    omega
  refine le_trans ?_ hprompt
  rw [BlockManager.probePrefixCache]
  split_ifs
  · refine (BlockManager.matchPrefix_length bm _).trans (le_of_eq ?_)
    simp [computeBlockHashes, Setup.blockParams]
  · exact Nat.zero_le _

section Transition

variable {s s' : CoreState ε} (hw : WellFormed S s)

include hw

lemma WithinLimits.step (h : WithinLimits S.config s) (ht : Transition S (orderly S) s s') :
    WithinLimits S.config s' := by
  have hgrow : ∀ q position, ∀ (p : ℕ) (bm : BlockManager ε),
      EnsureReady S.config s.queue s.blockManager q position →
      (q.status = .running → (q.numGeneratedTokens : ℤ) < q.samplingParams.maxTokens) →
      position / S.config.blockSize = (s.blockManager.getBlockTable q.seqId).length →
      (∀ sid, bm.getBlockTable sid =
        if sid = q.seqId then s.blockManager.getBlockTable q.seqId ++ [p] else s.blockManager.getBlockTable sid) →
      WithinLimits S.config ⟨s.queue, bm, s.seqGroupCount⟩ := by
    intro q position p bm hready hc hlen htable rid q' hq'
    have hold := h rid q' hq'
    simp only [htable]
    split_ifs with hid
    · obtain rfl := hw.queue.runningSeq_ext hq' hready.live hid
      obtain ⟨sg, -, -, -, hl⟩ := hw.queue.runningSeq_group hready.live
      have hlimit := hready.lt_blockLimit hc hl
      rw [SequenceGroup.blockLimit, ← hl.prompt, ← hl.params] at hlimit
      rw [List.length_append, List.length_singleton, ← hlen]
      exact hlimit
    · exact hold
  cases hw.effect ht with
  | idle => exact h
  | cleanup => exact h
  | failed => exact h
  | hit q position hash p bm hready hc hlen hhash hcached hs => exact hgrow q position p bm hready hc hlen hs.table
  | miss q position p bm hready hc hlen hmiss htk => exact hgrow q position p bm hready hc hlen htk.table
  | requeue queue n hrun =>
    intro rid q hq
    apply h rid q
    rw [RequestQueue.runningSeq, ← hrun]
    exact hq
  | retire sg q status bm hid hseqs hlive hstatus hf =>
    intro rid q' hq'
    simp only [RequestQueue.runningSeq_markFinished] at hq'
    simp only [hf.table]
    split_ifs at hq' ⊢
    · exact Nat.zero_le _
    · exact h rid q' hq'
  | admission sg bm hwait hfresh hc ha =>
    intro rid q hq
    simp only [hw.runningSeq_admission hwait] at hq
    simp only [ha.table]
    split_ifs at hq with hr
    · cases hq
      have hid : (Scheduler.admittedSeq S s.blockManager sg).seqId = ⟨sg.requestId, 0⟩ := rfl
      rw [if_pos hid]
      exact matched_le_blockLimit _ sg
    · rw [if_neg (hw.queue.seqId_ne hq hr)]
      exact h rid q hq
  | done prefill decode output x queue hready hc hexec hwt hfn hrj hrun =>
    intro rid q hq
    rw [RequestQueue.runningSeq_map hrun] at hq
    obtain ⟨q₀, hlive, rfl⟩ := Option.map_eq_some_iff.mp hq
    rw [Sequence.blockLimit, afterBatch_prompt, afterBatch_params, afterBatch_seqId]
    exact h rid q₀ hlive

lemma WithinLimits.reaches (h : WithinLimits S.config s) (hr : Reaches S (orderly S) s s') :
    WithinLimits S.config s' := by
  induction hr with
  | refl => exact h
  | tail hr ht ih => exact ih.step (hw.reaches hr) ht

end Transition

lemma Transition.imp {c d : CallCondition ε} {s s' : CoreState ε} (ht : Transition S c s s')
    (hadmission : ∀ qu bm sg, c.admission qu bm sg → d.admission qu bm sg)
    (hensure : ∀ qu bm q position, c.ensure qu bm q position → d.ensure qu bm q position)
    (hbatch : ∀ qu bm prefill decode, c.batch qu bm prefill decode → d.batch qu bm prefill decode) :
    Transition S d s s' := by
  cases ht with
  | submit sg hid hseqs => exact .submit s sg hid hseqs
  | retire sg q status hrun hseqs hstatus => exact .retire s sg q status hrun hseqs hstatus
  | cleanup sid => exact .cleanup s sid
  | withdraw sg hwait => exact .withdraw s sg hwait
  | reject sg hwait => exact .reject s sg hwait
  | refile sg hrej => exact .refile s sg hrej
  | admission sg hwait hc => exact .admission s sg hwait (hadmission _ _ _ hc)
  | ensure q position hready hc => exact .ensure s q position hready (hensure _ _ _ _ hc)
  | batch prefill decode hready hc => exact .batch s prefill decode hready (hbatch _ _ _ _ hc)

lemma orderly_seats {s s' : CoreState ε} (hw : WellFormed S s) (h : s.queue.numRunning ≤ S.config.maxNumSeqs)
    (hr : Reaches S (orderly S) s s') : s'.queue.numRunning ≤ S.config.maxNumSeqs := by
  refine numRunning_reaches hw h (Relation.ReflTransGen.mono (fun a b ht => ?_) _ _ hr)
  exact ht.imp (d := seated S) (fun _ _ _ hc => hc) (fun _ _ _ _ _ => trivial) (fun _ _ _ _ _ => trivial)

lemma card_le_of_covered {α : Type} {n : ℕ} (xs : List α) (f : α → List ℕ) (h : ∀ p < n, ∃ x ∈ xs, p ∈ f x) :
    n ≤ (xs.map (fun x => (f x).length)).sum := by
  have hsub : Finset.range n ⊆ (xs.flatMap f).toFinset := by
    intro p hp
    rw [List.mem_toFinset, List.mem_flatMap]
    exact h p (Finset.mem_range.mp hp)
  have hcard := (Finset.card_le_card hsub).trans (List.toFinset_card_le _)
  rwa [Finset.card_range, List.length_flatMap] at hcard

lemma WellFormed.numGpuBlocks_le {s : CoreState ε} (hw : WellFormed S s)
    (hnone : ∀ p, s.blockManager.allocator.isFree p = false) : S.config.numGpuBlocks ≤
      (s.queue.liveSeqs.map (fun q => (s.blockManager.getBlockTable q.seqId).length)).sum := by
  refine card_le_of_covered s.queue.liveSeqs (fun q => s.blockManager.getBlockTable q.seqId) fun p hp => ?_
  have hused := (hw.balanced.valid.free_iff p (hw.numBlocks ▸ hp)).not.mp (by simp [hnone p])
  have hcount := hw.balanced.refs p
  obtain ⟨sid, hm⟩ := BlockManager.exists_of_entriesAt s.blockManager (p := p) (by omega)
  obtain ⟨q, hq, rfl⟩ := hw.holder_live hm
  exact ⟨q, hw.queue.mem_liveSeqs.mpr hq, hm⟩

lemma sum_lt_of_mem {α : Type} {xs : List α} {f : α → ℕ} {k : ℕ} (hle : ∀ x ∈ xs, f x ≤ k) {x : α} (hx : x ∈ xs)
    (hlt : f x < k) : (xs.map f).sum < xs.length * k := by
  have hstrict := List.sum_lt_sum f (fun _ => k) hle ⟨x, hx, hlt⟩
  simpa using hstrict

def WithinShare (S : Setup ε) (share : ℕ) (ops : List LLMEngine.Op) : Prop :=
  ∀ r ∈ requestsOf S ops, blockLimit S.config r.1.length r.2.maxTokens ≤ share

instance (share : ℕ) (ops : List LLMEngine.Op) : Decidable (WithinShare S share ops) := List.decidableBAll _ _

section Pool

variable {share : ℕ} (hpool : S.config.maxNumSeqs * share ≤ S.config.numGpuBlocks)
  {requests : List (List ℕ × SamplingParams)}
  (hshare : ∀ r ∈ requests, blockLimit S.config r.1.length r.2.maxTokens ≤ share)

include hpool hshare

lemma ensureBlock_returns {s : CoreState ε} (hw : WellFormed S s) (hlimits : WithinLimits S.config s)
    (hseats : s.queue.numRunning ≤ S.config.maxNumSeqs) (hserves : Serves requests s.queue) {q : Sequence}
    {position : ℕ} (hready : EnsureReady S.config s.queue s.blockManager q position)
    (hdec : q.status = .running → (q.numGeneratedTokens : ℤ) < q.samplingParams.maxTokens) :
    ∃ pid, (s.blockManager.ensureBlock S.blockParams q position).1 = .ok pid := by
  have hall : ∀ q ∈ s.queue.liveSeqs, q.blockLimit S.config ≤ share := by
    intro q hq
    obtain ⟨sg, hsg, -, -, hl⟩ := hw.queue.runningSeq_group (hw.queue.mem_liveSeqs.mp hq)
    have hr := hserves _ sg (Or.inr (Or.inl hsg))
    rw [Sequence.blockLimit, hl.prompt, hl.params]
    exact hshare _ (List.mem_of_getElem? hr)
  have hspec := hw.ensures hready
  generalize (s.blockManager.ensureBlock S.blockParams q position).1 = r at hspec
  generalize (s.blockManager.ensureBlock S.blockParams q position).2 = bm at hspec
  cases hspec with
  | covered => exact ⟨_, rfl⟩
  | hit => exact ⟨_, rfl⟩
  | miss => exact ⟨_, rfl⟩
  | outOfMemory hlen hmiss hnone =>
    exfalso
    obtain ⟨sg, -, -, -, hl⟩ := hw.queue.runningSeq_group hready.live
    have hlimit := hready.lt_blockLimit hdec hl
    rw [SequenceGroup.blockLimit, ← hl.prompt, ← hl.params] at hlimit
    have hlen' : position / S.config.blockSize = (s.blockManager.getBlockTable q.seqId).length := hlen
    rw [hlen'] at hlimit
    have hlive := hw.queue.mem_liveSeqs.mpr hready.live
    have hlt := sum_lt_of_mem (fun q hq => (hlimits _ q (hw.queue.mem_liveSeqs.mp hq)).trans (hall q hq)) hlive
      (hlimit.trans_le (hall q hlive))
    have hnum : s.queue.liveSeqs.length = s.queue.numRunning := by
      have hsplit := s.queue.liveSeqs.length_eq_countP_add_countP (fun q => q.status = .prefill)
      rw [hw.queue.numRunning_eq, RequestQueue.decodes, RequestQueue.prefills, ← List.countP_eq_length_filter,
        ← List.countP_eq_length_filter]
      simp only [decide_eq_true_eq] at hsplit
      simp only [ne_eq]
      omega
    rw [hnum] at hlt
    have hbound := Nat.mul_le_mul_right share hseats
    have hblocks := hw.numGpuBlocks_le hnone
    omega

end Pool

lemma executeStep_returns {c : CallCondition ε} {s : CoreState ε} (hw : WellFormed S s) {prefill decode : List Sequence}
    (hvisit : (prefill.isEmpty && decode.isEmpty) = false →
      (c.visited S s).Execute S s.queue s.blockManager prefill decode)
    (hensures : (prefill.isEmpty && decode.isEmpty) = false →
      (ensuresSucceed S).Execute S s.queue s.blockManager prefill decode)
    (hbatches : (prefill.isEmpty && decode.isEmpty) = false →
      (batchesSucceed S).Execute S s.queue s.blockManager prefill decode) :
    (executeStep S s.queue s.blockManager prefill decode).1 = .ok () := by
  cases hempty : prefill.isEmpty && decode.isEmpty with
  | true => simp only [executeStep, hempty, if_true]
  | false =>
    obtain ⟨-, hvisited⟩ := hvisit hempty
    obtain ⟨hensure, -⟩ := hensures hempty
    obtain ⟨-, hbatch⟩ := hbatches hempty
    simp only [executeStep, hempty, Bool.false_eq_true, if_false]
    cases hloop : forEach (ensureStep S) s.blockManager (ensureCalls S.config prefill decode) with
    | mk r bm =>
      rw [hloop] at hvisited hbatch
      cases r with
      | error err =>
        obtain ⟨bm₁, call, -, ⟨pid, hpid⟩, hcall⟩ := forEach_raises hensure hloop
        rw [ensureStep] at hcall
        split at hcall
        · rename_i he
          rw [he] at hpid
          cases hpid
        · cases hcall
      | ok u =>
        obtain ⟨-, hreach, hready⟩ := hvisited
        obtain ⟨output, hout⟩ := hbatch
        obtain ⟨r, queue, bm', hran, hspec⟩ := (hw.reaches hreach).runBatch_cases hready
        simp only at hran
        simp only [hran]
        cases hspec with
        | failed err x hexec =>
          rw [hexec] at hout
          cases hout
        | done => rfl

lemma succeeds_of_returns {s : EngineState ε} (hw : WellFormed S s.core) {now : ℚ}
    (hensures : (ensuresSucceed S).Step S s now) (hbatches : (batchesSucceed S).Step S s now) : Succeeds S s now := by
  have hwb := beginStep_wellFormed hw now
  obtain ⟨l, l', visited, hs⟩ := schedule_spec hwb
  have hresult : Scheduler.schedule S (beginStep S s now).queue (beginStep S s now).blockManager =
      (.ok (l'.report l.queue.decodes.length), l'.queue, l'.blockManager) := hs.result
  have hensure := hensures.2
  have hbatch := hbatches.2
  simp only [hresult] at hensure hbatch
  have hexec := executeStep_returns (hs.wellFormed hwb) (hs.visits_execute hwb) hensure hbatch
  rw [Succeeds, (LLMEngine.step_result s now).1]
  simp only [EngineCore.step, hresult]
  revert hexec
  generalize executeStep S l'.queue l'.blockManager (prefillSeqs l'.queue (l'.report l.queue.decodes.length))
    (decodeSeqs l'.queue (l'.report l.queue.decodes.length)) = out
  obtain ⟨r, queue, bm⟩ := out
  rintro rfl
  rfl

section Step

variable {s : EngineState ε} (hw : WellFormed S s.core) (hseats : s.queue.numRunning ≤ S.config.maxNumSeqs) {now : ℚ}
  (hfit : prefillsContinue S s now)

include hw hseats hfit

lemma orderly_step : (orderly S).Step S s now :=
  ⟨(seated_step hw hseats hfit).1, (decoding_step hw now).2⟩

lemma ensuresSucceed_step {share : ℕ} (hpool : S.config.maxNumSeqs * share ≤ S.config.numGpuBlocks)
    {requests : List (List ℕ × SamplingParams)}
    (hshare : ∀ r ∈ requests, blockLimit S.config r.1.length r.2.maxTokens ≤ share)
    (hserves : Serves requests s.queue) (hlimits : WithinLimits S.config s.core) :
    (ensuresSucceed S).Step S s now := by
  have hwb := beginStep_wellFormed hw now
  have hbegin := beginStep_refines (c := orderly S) hw now
  have hseatsb : (beginStep S s now).core.queue.numRunning ≤ S.config.maxNumSeqs := orderly_seats hw hseats hbegin
  have hlimitsb := hlimits.reaches hw hbegin
  have hservesb : Serves requests (beginStep S s now).core.queue :=
    Serves.reaches hw hserves hbegin (beginStep_seqGroupCount s now)
  refine (step_refines hw (orderly_step hw hseats hfit)).2.imp ?_ ?_ ?_ ?_
  · exact fun _ _ _ _ => trivial
  · exact fun _ _ _ _ => trivial
  · rintro queue bm q position ⟨hdec, hreach, hready⟩
    have hlimitsl : WithinLimits S.config ⟨queue, bm, (beginStep S s now).core.seqGroupCount⟩ :=
      hlimitsb.reaches hwb hreach
    have hservesl : Serves requests queue := Serves.reaches hwb hservesb hreach rfl
    have hseatsl : queue.numRunning ≤ S.config.maxNumSeqs := orderly_seats hwb hseatsb hreach
    exact ensureBlock_returns hpool hshare (hwb.reaches hreach) hlimitsl hseatsl hservesl hready hdec
  · exact fun _ _ _ _ _ => trivial

end Step

lemma batchesSucceed_step {s : EngineState ε} (hw : WellFormed S s.core) {now : ℚ} (hexec : Reliable S)
    {requests : List (List ℕ × SamplingParams)} (hne : ∀ r ∈ requests, r.1 ≠ []) (hserves : Serves requests s.queue) :
    (batchesSucceed S).Step S s now := by
  have hwb := beginStep_wellFormed hw now
  have hservesb : Serves requests (beginStep S s now).core.queue :=
    Serves.reaches hw hserves (beginStep_refines (c := {}) hw now) (beginStep_seqGroupCount s now)
  refine (step_refines hw (step_true s now)).2.imp ?_ ?_ ?_ ?_
  · exact fun _ _ _ _ => trivial
  · exact fun _ _ _ _ => trivial
  · exact fun _ _ _ _ _ => trivial
  · rintro queue bm prefill decode ⟨-, hreach, hready⟩
    have hwl := hwb.reaches hreach
    have hservesl : Serves requests queue := Serves.reaches hwb hservesb hreach rfl
    have hprompts : ∀ q ∈ prefill, q.promptTokenIds ≠ [] := by
      intro q hq
      obtain ⟨sg, hsg, -, -, hl⟩ := hwl.queue.runningSeq_group (hready.prefill_live q hq).1
      rw [hl.prompt]
      exact hservesl.running_nonempty hne hsg
    exact hexec ⟨queue, bm, (beginStep S s now).core.seqGroupCount⟩ prefill decode hwl hready hprompts

lemma orderly_run (S : Setup ε) (ops : List LLMEngine.Op) (hne : ∀ r ∈ requestsOf S ops, r.1 ≠ []) :
    (LLMEngine.run S ops).queue.numRunning ≤ S.config.maxNumSeqs ∧
      WithinLimits S.config (LLMEngine.run S ops).core := by
  induction ops using List.reverseRecOn with
  | nil =>
    refine ⟨Nat.zero_le _, fun rid q hq => ?_⟩
    cases hq
  | append_singleton ops op ih =>
    have hold : ∀ r ∈ requestsOf S ops, r.1 ≠ [] := by
      intro r hr
      apply hne
      rw [requestsOf_append]
      exact List.mem_append_left _ hr
    obtain ⟨hseats, hlimits⟩ := ih hold
    have hw := wellFormed_run S ops
    have hop : (orderly S).Apply S (LLMEngine.run S ops) op := by
      cases op with
      | addRequest => trivial
      | cancelRequest => trivial
      | checkTimeouts => trivial
      | step now => exact orderly_step hw hseats (prefillsContinue_of_nonempty S ops now hold)
    have hreach := apply_refines hw hop
    rw [LLMEngine.run_concat]
    exact ⟨orderly_seats hw hseats hreach, hlimits.reaches hw hreach⟩

lemma succeeds_run {share : ℕ} (hpool : S.config.maxNumSeqs * share ≤ S.config.numGpuBlocks) (ops : List LLMEngine.Op)
    (hne : ∀ r ∈ requestsOf S ops, r.1 ≠ []) (hshare : WithinShare S share ops)
    (hbatches : ∀ done now, done ++ [.step now] <+: ops → (batchesSucceed S).Step S (LLMEngine.run S done) now) :
    (Succeeds S).Run S ops := by
  induction ops using List.reverseRecOn with
  | nil => trivial
  | append_singleton ops op ih =>
    rw [requestsOf_append] at hne
    rw [WithinShare, requestsOf_append] at hshare
    have hold : ∀ r ∈ requestsOf S ops, r.1 ≠ [] := fun r hr => hne r (List.mem_append_left _ hr)
    have hsmall : WithinShare S share ops := fun r hr => hshare r (List.mem_append_left _ hr)
    obtain ⟨hseats, hlimits⟩ := orderly_run S ops hold
    have hw := wellFormed_run S ops
    refine (StepCondition.runFrom_append _ _ ops [op]).mpr ⟨ih hold hsmall ?_, ?_, trivial⟩
    · exact fun done now hdone => hbatches done now (hdone.trans (List.prefix_append _ _))
    · cases op with
      | addRequest => trivial
      | cancelRequest => trivial
      | checkTimeouts => trivial
      | step now =>
        have hfit := prefillsContinue_of_nonempty S ops now hold
        exact succeeds_of_returns hw (ensuresSucceed_step hw hseats hfit hpool hsmall (serves_run S ops).2 hlimits)
          (hbatches ops now List.prefix_rfl)

/-- With a share of the pool for every seat, no step of any run raises. -/
theorem pool_suffices (S : Setup ε) (hexec : Reliable S) (share : ℕ)
    (hpool : S.config.maxNumSeqs * share ≤ S.config.numGpuBlocks) (ops : List LLMEngine.Op)
    (hne : ∀ r ∈ requestsOf S ops, r.1 ≠ []) (hshare : WithinShare S share ops) : (Succeeds S).Run S ops := by
  refine succeeds_run hpool ops hne hshare fun done now hdone => ?_
  refine batchesSucceed_step (wellFormed_run S done) hexec (fun r hr => hne r ?_) (serves_run S done).2
  obtain ⟨rest, rfl⟩ := hdone
  rw [requestsOf_append, requestsOf_append]
  exact List.mem_append_left _ (List.mem_append_left _ hr)

def twoShares : Config :=
  { twoSeats with
    numGpuBlocks := 6
    blockSize := 2
    enablePrefixCaching := true
    numGpuBlocks_pos := Nat.succ_pos 5
    blockSize_pos := Nat.two_pos }

theorem pool_suffices_of_three_shares :
    (Succeeds (fakeSetup twoShares codeHash)).Run (fakeSetup twoShares codeHash)
      [.addRequest ['a', 'b', 'c', 'd'] 2 0, .addRequest ['e'] 5 0, .addRequest ['f'] 6 0, .step 0, .step 0, .step 0,
        .step 0, .step 0] :=
  pool_suffices (fakeSetup twoShares codeHash) (fake_reliable twoShares codeHash) 3 (by decide)
    [.addRequest ['a', 'b', 'c', 'd'] 2 0, .addRequest ['e'] 5 0, .addRequest ['f'] 6 0, .step 0, .step 0, .step 0,
      .step 0, .step 0] (by decide) (by decide)

end MiniVllm
