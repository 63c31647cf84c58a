import MiniVllm.EngineProofs.Texts
import MiniVllm.ExecutorProofs.Greedy

/-! Every request of every run generates the greedy continuation of its prompt, whatever runs beside it. -/

namespace MiniVllm

open BlockManager EngineCore LayerCache ModelInputBuilder PagedExecutor QwenModelRunner

section Hits

variable {ε : Type}

def HeldAlike (config : Config) (qu : RequestQueue) (bm : BlockManager ε) (sid : SeqId) (prompt : List ℕ)
    (i p : ℕ) : Prop :=
  ∀ u ∈ qu.liveSeqs, u.seqId ≠ sid → ∀ entry ∈ (bm.getBlockTable u.seqId).zipIdx, entry.1 = p →
    entry.2 = i ∧ ∀ k < i + 1, promptBlock config.blockSize u.promptTokenIds k = promptBlock config.blockSize prompt k

instance (config : Config) (qu : RequestQueue) (bm : BlockManager ε) (sid : SeqId) (prompt : List ℕ)
    (i p : ℕ) : Decidable (HeldAlike config qu bm sid prompt i p) :=
  inferInstanceAs (Decidable (∀ u ∈ _, _ → ∀ entry ∈ _, _ → _ ∧ ∀ k < _, _))

def samePrefixHits (S : Setup ε) : CallCondition ε where
  admission qu bm sg := ∀ hit ∈ bm.matchedBlocks S.blockParams sg.promptTokenIds,
    HeldAlike S.config qu bm ⟨sg.requestId, 0⟩ sg.promptTokenIds hit.2 hit.1
  ensure qu bm q position := ∀ p ∈ bm.ensureHit S.blockParams q position,
    HeldAlike S.config qu bm q.seqId q.promptTokenIds (position / S.config.blockSize) p

section Decidable

variable (S : Setup ε) (qu : RequestQueue) (bm : BlockManager ε)

instance (sg : SequenceGroup) : Decidable ((samePrefixHits S).probe qu bm sg) := inferInstanceAs (Decidable True)

instance (sg : SequenceGroup) : Decidable ((samePrefixHits S).admission qu bm sg) :=
  inferInstanceAs (Decidable (∀ hit ∈ _, _))

instance (q : Sequence) (position : ℕ) : Decidable ((samePrefixHits S).ensure qu bm q position) :=
  inferInstanceAs (Decidable (∀ p ∈ _, _))

instance (prefill decode : List Sequence) : Decidable ((samePrefixHits S).batch qu bm prefill decode) :=
  inferInstanceAs (Decidable True)

end Decidable

lemma mem_matchedBlocks {P : BlockParams ε} {bm : BlockManager ε} {prompt : List ℕ} {i p : ℕ}
    (h : (bm.probePrefixCache P prompt).matchedPhysicalBlockIds[i]? = some p) :
    (p, i) ∈ bm.matchedBlocks P prompt :=
  List.mem_zipIdx_iff_getElem?.mpr h

end Hits

/-- An admission shares only blocks that every holder has computed in full for the same prompt prefix, and leaves a
token to compute; no call of `ensure_block` hits. -/
def soundHits {ε : Type} (S : Setup ε) : CallCondition ε := (settledHits S).all (samePrefixHits S)

def fitsModel {ε : Type} (mc : ModelConfig) : CallCondition ε where
  batch _ _ prefill decode := ∀ q ∈ prefill ++ decode, FitsModel mc q.promptTokenIds q.samplingParams

lemma getElem?_promptBlock {blockSize : ℕ} (hpos : 0 < blockSize) (prompt : List ℕ) (r : ℕ) :
    (promptBlock blockSize prompt (r / blockSize))[r % blockSize]? = prompt[r]? := by
  rw [promptBlock, List.getElem?_take_of_lt (Nat.mod_lt _ hpos), List.getElem?_drop, Nat.mul_comm,
    Nat.div_add_mod]

section Admission

variable {ε : Type} {S : Setup ε} {s : CoreState ε} (hw : WellFormed S s) {sg : SequenceGroup}
  (hwait : s.queue.waiting.get? sg.requestId = some sg) (hc : (soundHits S).admission s.queue s.blockManager sg)

include hw hwait hc

lemma matched_holder {i p : ℕ} (hm : (s.blockManager.probePrefixCache S.blockParams
      sg.promptTokenIds).matchedPhysicalBlockIds[i]? = some p) :
    ∃ u, s.queue.runningSeq u.seqId.request = some u ∧ (s.blockManager.getBlockTable u.seqId)[i]? = some p ∧
      (i + 1) * S.config.blockSize ≤ u.kvLen ∧ ∀ r < (i + 1) * S.config.blockSize,
        u.tokens.getD r 0 = (Scheduler.admittedSeq S s.blockManager sg).tokens.getD r 0 := by
  obtain ⟨sid, hsid⟩ := hw.balanced.exists_holder (probe_live (List.mem_of_getElem? hm))
  obtain ⟨u, hu, rfl⟩ := hw.holder_live hsid
  obtain ⟨j, hj⟩ := List.getElem?_of_mem hsid
  have hlive := hw.queue.mem_liveSeqs.mpr hu
  have hentry : (p, j) ∈ (s.blockManager.getBlockTable u.seqId).zipIdx := List.mem_zipIdx_iff_getElem?.mpr hj
  have hhit := mem_matchedBlocks hm
  have hne : u.seqId ≠ ⟨sg.requestId, 0⟩ := fun he => hw.not_contains_of_waiting hwait (he ▸ hw.contains hu)
  obtain ⟨hcached, hsettled⟩ := hc.1 _ hhit
  obtain ⟨hij, hblocks⟩ := hc.2 _ hhit u hlive hne (p, j) hentry rfl
  obtain rfl : j = i := hij
  refine ⟨u, hu, hj, hsettled u hlive (p, j) hentry rfl, fun r hr => ?_⟩
  have hlen : r < sg.promptTokenIds.length := by
    have hcount := WellFormed.cachedTokenCount_eq s.blockManager S.blockParams sg.promptTokenIds
    have hmatched := (List.getElem?_eq_some_iff.mp hm).1
    have hle := Nat.mul_le_mul_right S.config.blockSize hmatched
    rw [show S.blockParams.blockSize = S.config.blockSize from rfl] at hcount
    rw [Nat.succ_mul] at hle
    rw [Nat.succ_mul] at hr
    omega
  have hblock := hblocks (r / S.config.blockSize) ((Nat.div_lt_iff_lt_mul S.config.blockSize_pos).mpr hr)
  have hsame : u.promptTokenIds[r]? = sg.promptTokenIds[r]? := by
    rw [← getElem?_promptBlock S.config.blockSize_pos u.promptTokenIds, hblock,
      getElem?_promptBlock S.config.blockSize_pos]
  have hlen' : r < u.promptTokenIds.length := by
    rw [List.getElem?_eq_getElem hlen] at hsame
    exact (List.getElem?_eq_some_iff.mp hsame).1
  have hprompt : (Scheduler.admittedSeq S s.blockManager sg).promptTokenIds = sg.promptTokenIds := rfl
  rw [Sequence.tokens, Sequence.tokens, List.getD_eq_getElem?_getD, List.getD_eq_getElem?_getD,
    List.getElem?_append_left hlen', List.getElem?_append_left (hprompt ▸ hlen), hsame, hprompt]

end Admission

section Run

variable {F H L R : Type} {mc : ModelConfig} [Field F] {M : QwenModel F H L mc} {argmax : L → ℕ} {ε : Type}
  {S : Setup ε} {s : CoreState ε} {pool : KVCachePool F mc}

lemma PoolHolds.kept (hw : WellFormed S s) (h : PoolHolds M S.config s pool) {bm : BlockManager ε} {rid : RequestId}
    {q : Sequence} (hq : s.queue.runningSeq rid = some q)
    (htable : s.blockManager.getBlockTable q.seqId <+: bm.getBlockTable q.seqId) :
    ∀ r < q.kvLen, Represented M M.layers pool (M.embedAt q.tokens) (tokenCell S.config bm q r) r := by
  intro r hr
  have hcell : tokenCell S.config bm q r = tokenCell S.config s.blockManager q r := by
    simp only [tokenCell, tableCell, List.getD_eq_getElem?_getD, getElem?_of_isPrefix htable (hw.covered_lt hq hr)]
  rw [hcell]
  exact h.rows rid q hq r hr

lemma PoolHolds.admitted (hw : WellFormed S s) (h : PoolHolds M S.config s pool) {sg : SequenceGroup}
    (hwait : s.queue.waiting.get? sg.requestId = some sg) (hc : (soundHits S).admission s.queue s.blockManager sg)
    {bm : BlockManager ε} (ha : Admits S.blockParams ⟨sg.requestId, 0⟩ sg.promptTokenIds s.blockManager bm) :
    ∀ r < (Scheduler.admittedSeq S s.blockManager sg).kvLen,
      Represented M M.layers pool (M.embedAt (Scheduler.admittedSeq S s.blockManager sg).tokens)
        (tokenCell S.config bm (Scheduler.admittedSeq S s.blockManager sg) r) r := by
  intro r hr
  have hblock := (Nat.div_lt_iff_lt_mul S.config.blockSize_pos).mpr
    (hr.trans_le (WellFormed.admittedSeq_kvLen s.blockManager sg))
  have hm := List.getElem?_eq_getElem hblock
  obtain ⟨u, hu, hentry, hkv, htokens⟩ := matched_holder hw hwait hc hm
  have hlt : r < (r / S.config.blockSize + 1) * S.config.blockSize := by
    rw [Nat.succ_mul]
    exact Nat.lt_div_mul_add S.config.blockSize_pos
  have hcell : tokenCell S.config bm (Scheduler.admittedSeq S s.blockManager sg) r =
      tokenCell S.config s.blockManager u r := by
    have hid : (Scheduler.admittedSeq S s.blockManager sg).seqId = ⟨sg.requestId, 0⟩ := rfl
    simp only [tokenCell, tableCell, hid, ha.table, if_true, List.getD_eq_getElem?_getD, hm, hentry]
  rw [hcell]
  refine (h.rows _ u hu r (hlt.trans_le hkv)).congr fun p hp => ?_
  rw [QwenModel.embedAt, QwenModel.embedAt, htokens p (lt_of_le_of_lt hp hlt)]

lemma PoolHolds.moved (hw : WellFormed S s) (h : PoolHolds M S.config s pool) {s' : CoreState ε}
    (hmoved : ∀ rid q, s'.queue.runningSeq rid = some q → s.queue.runningSeq rid = some q ∧
      s.blockManager.getBlockTable q.seqId <+: s'.blockManager.getBlockTable q.seqId) : PoolHolds M S.config s' pool :=
  ⟨h.shaped, fun rid q hq => h.kept hw (hmoved rid q hq).1 (hmoved rid q hq).2⟩

end Run

structure Sequence.EndedGreedily {F H L : Type} {mc : ModelConfig} [Field F] (M : QwenModel F H L mc) (argmax : L → ℕ)
    (q : Sequence) : Prop where
  greedy : q.IsGreedy M argmax
  complete : q.status = .finished → 1 ≤ q.samplingParams.maxTokens →
    q.outputTokenIds.length = q.samplingParams.maxTokens.toNat

section Serves

variable {F H L R : Type} {mc : ModelConfig} [Field F]

structure ServesGreedily (M : QwenModel F H L mc) (argmax : L → ℕ) (config : Config)
    (Stands : R → KVCachePool F mc → Prop) (s : CoreState (RunnerState R)) : Prop where
  pairs : Pairs (Settled config) s
  pool : ∃ pool, Stands s.blockManager.allocator.listener.pool pool ∧ PoolHolds M config s pool
  live : ∀ rid q, s.queue.runningSeq rid = some q → q.IsGreedy M argmax
  ended : ∀ rid sg, s.queue.finished.get? rid = some sg → ∀ q ∈ sg.seqs, q.EndedGreedily M argmax

variable {M : QwenModel F H L mc} {argmax : L → ℕ} {runner : ModelRunner R L} {Stands : R → KVCachePool F mc → Prop}
  {tokenizer : Tokenizer} {config : Config} {blockHash : List ℕ → ℤ} {s s' : CoreState (RunnerState R)}

def greedyCalls (mc : ModelConfig) {ε : Type} (S : Setup ε) : CallCondition ε := (soundHits S).all (fitsModel mc)

lemma pairs_step {ε : Type} {S : Setup ε} {s s' : CoreState ε} (hw : WellFormed S s) (h : Pairs (Settled S.config) s)
    (ht : Transition S (greedyCalls mc S) s s') : Pairs (Settled S.config) s' :=
  settledHits_rule.step hw h (ht.imp (d := settledHits S) (fun _ _ _ hc => hc.1.1) (fun _ _ _ _ hc => hc.1.1)
    (fun _ _ _ _ _ => trivial))

section Step

variable (hw : WellFormed (qwenSetup runner argmax tokenizer config blockHash) s)
  (h : ServesGreedily M argmax config Stands s)

include hw h

lemma ServesGreedily.retire {sg : SequenceGroup} {q : Sequence} {status : Status}
    {bm : BlockManager (RunnerState R)} (hid : sg.requestId = q.seqId.request)
    (hlive : s.queue.runningSeq q.seqId.request = some q) (hstatus : Retirement q status)
    (hf : Releases (qwenSetup runner argmax tokenizer config blockHash).blockParams q.seqId s.blockManager bm)
    (hpairs : Pairs (Settled config)
      ⟨s.queue.markFinished { sg with seqs := [{ q with status := status }] }, bm, s.seqGroupCount⟩) :
    ServesGreedily M argmax config Stands
      ⟨s.queue.markFinished { sg with seqs := [{ q with status := status }] }, bm, s.seqGroupCount⟩ := by
  have hrun : ∀ rid q', (s.queue.markFinished { sg with seqs := [{ q with status := status }] }).runningSeq rid =
      some q' → s.queue.runningSeq rid = some q' ∧ q'.seqId ≠ q.seqId := by
    intro rid q' hq'
    rw [RequestQueue.runningSeq_markFinished] at hq'
    split_ifs at hq' with hr
    rw [hid] at hr
    exact ⟨hq', hw.queue.seqId_ne hq' hr⟩
  refine ⟨hpairs, ?_, fun rid q' hq' => h.live rid q' (hrun rid q' hq').1, fun rid sg' hsg' q' hq' => ?_⟩
  · obtain ⟨pool, hstands, hholds⟩ := h.pool
    obtain ⟨released, hlis, -⟩ := hf.listener
    have hsame : bm.allocator.listener = s.blockManager.allocator.listener := hlis.trans (List.foldl_fixed released)
    refine ⟨pool, by rwa [hsame], PoolHolds.moved (S := qwenSetup runner argmax tokenizer config blockHash) hw hholds
      fun rid q' hq' => ⟨(hrun rid q' hq').1, ?_⟩⟩
    simp only [hf.table, if_neg (hrun rid q' hq').2]
    exact List.prefix_rfl
  · rcases Dict.get?_set_some hsg' with ⟨-, rfl⟩ | hold
    · obtain rfl := List.mem_singleton.mp hq'
      refine ⟨h.live _ q hlive, fun hst hmax => ?_⟩
      obtain rfl : status = .finished := hst
      cases hstatus with
      | finished hdone => exact (hw.queue.runningSeq_phase hlive).finished_length hmax hdone
    · exact h.ended rid sg' hold q' hq'

lemma ServesGreedily.admission {sg : SequenceGroup} {bm : BlockManager (RunnerState R)}
    (hwait : s.queue.waiting.get? sg.requestId = some sg)
    (hc : (soundHits (qwenSetup runner argmax tokenizer config blockHash)).admission s.queue s.blockManager sg)
    (ha : Admits (qwenSetup runner argmax tokenizer config blockHash).blockParams ⟨sg.requestId, 0⟩ sg.promptTokenIds
      s.blockManager bm)
    (hpairs : Pairs (Settled config) ⟨s.queue.markRunning { sg with seqs := sg.seqs ++
      [Scheduler.admittedSeq (qwenSetup runner argmax tokenizer config blockHash) s.blockManager sg] }, bm,
      s.seqGroupCount⟩) :
    ServesGreedily M argmax config Stands ⟨s.queue.markRunning { sg with seqs := sg.seqs ++
      [Scheduler.admittedSeq (qwenSetup runner argmax tokenizer config blockHash) s.blockManager sg] }, bm,
      s.seqGroupCount⟩ := by
  obtain ⟨pool, hstands, hholds⟩ := h.pool
  refine ⟨hpairs, ⟨pool, by rwa [ha.listener], hholds.shaped, fun rid q hq => ?_⟩, fun rid q hq => ?_, h.ended⟩
  · rw [hw.runningSeq_admission hwait] at hq
    split_ifs at hq with hr
    · obtain rfl := Option.some.inj hq
      exact PoolHolds.admitted (S := qwenSetup runner argmax tokenizer config blockHash) hw hholds hwait hc ha
    · refine PoolHolds.kept (S := qwenSetup runner argmax tokenizer config blockHash) hw hholds hq ?_
      rw [ha.table, if_neg (hw.queue.seqId_ne hq hr)]
  · rw [hw.runningSeq_admission hwait] at hq
    split_ifs at hq with hr
    · obtain rfl := Option.some.inj hq
      rfl
    · exact h.live rid q hq

lemma ServesGreedily.batch {prefill decode : List Sequence} {output : ModelRunnerOutput} {x : RunnerState R}
    {queue : RequestQueue} (himpl : Implements M config runner Stands)
    (hready : BatchReady config s.queue s.blockManager prefill decode)
    (hfits : ∀ q ∈ prefill ++ decode, FitsModel mc q.promptTokenIds q.samplingParams)
    (hexec : executeOn runner argmax (batchInput config s.blockManager prefill decode) s.blockManager =
      (.ok output, s.blockManager.withListener x)) (hfin : queue.finished = s.queue.finished)
    (hrun : ∀ rid, queue.running.get? rid = (s.queue.running.get? rid).map (SequenceGroup.mapSeqs
      (afterBatch config (prefill.map (·.seqId)) (decode.map (·.seqId)) (tokenOf output))))
    {events : List CacheEvent}
    (hpairs : Pairs (Settled config) ⟨queue, (s.blockManager.withListener x).record events, s.seqGroupCount⟩) :
    ServesGreedily M argmax config Stands
      ⟨queue, (s.blockManager.withListener x).record events, s.seqGroupCount⟩ := by
  obtain ⟨pool, hstands, hholds⟩ := h.pool
  obtain ⟨output', x', pool', hexec', hstands', hsamples, hshaped, hafter⟩ :=
    executeOn_greedy himpl hw hready h.pairs hfits hstands hholds
  have hsame := hexec.symm.trans hexec'
  obtain rfl : output = output' := by simpa using congrArg Prod.fst hsame
  obtain rfl : x = x' := congrArg (fun r => r.2.allocator.listener) hsame
  refine ⟨hpairs, ⟨pool', hstands', hshaped, fun rid q hq => ?_⟩, fun rid q hq => ?_, ?_⟩
  · rw [RequestQueue.runningSeq_map hrun] at hq
    obtain ⟨q₀, hlive, rfl⟩ := Option.map_eq_some_iff.mp hq
    have hrows := hafter (tokenOf output) rid q₀ hlive
    simp only [tokenCell, afterBatch_seqId] at hrows ⊢
    exact hrows
  · rw [RequestQueue.runningSeq_map hrun] at hq
    obtain ⟨q₀, hlive, rfl⟩ := Option.map_eq_some_iff.mp hq
    exact Sequence.IsGreedy.batch (S := qwenSetup runner argmax tokenizer config blockHash) hw hready hfits hsamples
      hlive (h.live rid q₀ hlive)
  · intro rid sg hsg
    rw [hfin] at hsg
    exact h.ended rid sg hsg

theorem ServesGreedily.step (himpl : Implements M config runner Stands)
    (ht : Transition (qwenSetup runner argmax tokenizer config blockHash)
      (greedyCalls mc (qwenSetup runner argmax tokenizer config blockHash)) s s') :
    ServesGreedily M argmax config Stands s' := by
  have hpairs : Pairs (Settled config) s' :=
    pairs_step (S := qwenSetup runner argmax tokenizer config blockHash) hw h.pairs ht
  cases hw.effect ht with
  | idle => exact h
  | cleanup => exact h
  | requeue queue n hrun hfin =>
    have hseqs : ∀ rid, queue.runningSeq rid = s.queue.runningSeq rid := by
      intro rid
      simp only [RequestQueue.runningSeq, hrun]
    obtain ⟨pool, hstands, hholds⟩ := h.pool
    refine ⟨hpairs, ⟨pool, hstands, hholds.shaped, fun rid q hq => hholds.rows rid q (hseqs rid ▸ hq)⟩,
      fun rid q hq => h.live rid q (hseqs rid ▸ hq), fun rid sg hsg q hq => ?_⟩
    rcases hfin rid sg hsg with hold | hnil
    · exact h.ended rid sg hold q hq
    · rw [hnil] at hq
      cases hq
  | retire sg q status bm hid hseqs hlive hstatus hf => exact h.retire hw hid hlive hstatus hf hpairs
  | admission sg bm hwait hfresh hc ha => exact h.admission hw hwait hc.1 ha hpairs
  | hit q position hash p bm hready hc hlen hhash hcached hs =>
    have hnone : s.blockManager.ensureHit (qwenSetup runner argmax tokenizer config blockHash).blockParams q position =
      none := hc.1.1
    rw [ensureHit_of_cached hlen hhash hcached] at hnone
    cases hnone
  | miss q position p bm hready hc hlen hmiss htk =>
    obtain ⟨pool, hstands, hholds⟩ := h.pool
    have hsame : bm.allocator.listener = s.blockManager.allocator.listener := htk.listener
    refine ⟨hpairs, ⟨pool, by rwa [hsame], PoolHolds.moved
      (S := qwenSetup runner argmax tokenizer config blockHash) hw hholds fun rid q' hq' => ⟨hq', ?_⟩⟩, h.live, h.ended⟩
    simp only [htk.table]
    split_ifs with hsid
    · rw [hsid]
      exact List.prefix_append _ _
    · exact List.prefix_rfl
  | failed prefill decode err x hready hc hexec =>
    obtain ⟨pool, hstands, hholds⟩ := h.pool
    obtain ⟨output, x', pool', hexec', -⟩ :=
      executeOn_greedy himpl hw hready h.pairs hc.2 hstands hholds
    have hsame := congrArg Prod.fst (hexec.symm.trans hexec')
    cases hsame
  | done prefill decode output x queue hready hc hexec hwt hfn hrj hrun =>
    exact h.batch hw himpl hready hc.2 hexec hfn hrun hpairs

end Step

lemma ServesGreedily.initial (himpl : Implements M config runner Stands) : ServesGreedily M argmax config Stands
    (LLMEngine.initial (qwenSetup runner argmax tokenizer config blockHash)).core where
  pairs q i q' j p h₁ _ := by cases h₁.live
  pool := by
    obtain ⟨pool, hstands, hshaped⟩ := himpl.start
    exact ⟨pool, hstands, hshaped, fun rid q hq => by cases hq⟩
  live rid q hq := by cases hq
  ended rid sg hsg := by cases hsg

end Serves

section Requests

variable {ε : Type} {S : Setup ε} {mc : ModelConfig} {requests : List (List ℕ × SamplingParams)}

lemma fitsModel_batch {s : CoreState ε} (hw : WellFormed S s) (hserves : Serves requests s.queue)
    (hfits : ∀ r ∈ requests, FitsModel mc r.1 r.2) {prefill decode : List Sequence}
    (hr : BatchReady S.config s.queue s.blockManager prefill decode) :
    (fitsModel mc : CallCondition ε).batch s.queue s.blockManager prefill decode := by
  intro q hq
  have hlive : s.queue.runningSeq q.seqId.request = some q := by
    rcases List.mem_append.mp hq with hp | hd
    · exact (hr.prefill_live q hp).1
    · exact (hr.decode_live q hd).1
  obtain ⟨sg, hsg, -, -, hl⟩ := hw.queue.runningSeq_group hlive
  rw [hl.prompt, hl.params]
  exact hfits _ (List.mem_of_getElem? (hserves _ sg (Or.inr (Or.inl hsg))))

lemma greedyCalls_step {s : EngineState ε} (hw : WellFormed S s.core) (hserves : Serves requests s.queue)
    (hfits : ∀ r ∈ requests, FitsModel mc r.1 r.2) {now : ℚ} (hsound : (soundHits S).Step S s now) :
    (greedyCalls mc S).Step S s now := by
  have hwb := beginStep_wellFormed hw now
  have hservesb : Serves requests (beginStep S s now).core.queue :=
    Serves.reaches hw hserves (beginStep_refines (c := {}) hw now) (beginStep_seqGroupCount s now)
  refine (step_refines hw hsound).2.imp ?_ ?_ ?_ ?_
  · exact fun _ _ _ h => ⟨h.1, trivial⟩
  · exact fun _ _ _ h => ⟨h.1, trivial⟩
  · exact fun _ _ _ _ h => ⟨h.1, trivial⟩
  · rintro queue bm prefill decode ⟨hc, hreach, hready⟩
    refine ⟨hc, fitsModel_batch (s := ⟨queue, bm, (beginStep S s now).core.seqGroupCount⟩) (hwb.reaches hreach) ?_
      hfits hready⟩
    exact Serves.reaches hwb hservesb hreach rfl

lemma greedyCalls_run (ops : List LLMEngine.Op) (hfits : ∀ r ∈ requestsOf S ops, FitsModel mc r.1 r.2)
    (hsound : (soundHits S).Run S ops) : (greedyCalls mc S).Run S ops := by
  induction ops using List.reverseRecOn with
  | nil => trivial
  | append_singleton ops op ih =>
    rw [requestsOf_append] at hfits
    obtain ⟨hold, hop, -⟩ := (StepCondition.runFrom_append _ _ ops [op]).mp hsound
    have hfitsOld : ∀ r ∈ requestsOf S ops, FitsModel mc r.1 r.2 := fun r hr => hfits r (List.mem_append_left _ hr)
    refine (StepCondition.runFrom_append _ _ ops [op]).mpr ⟨ih hfitsOld hold, ?_, trivial⟩
    cases op with
    | addRequest => trivial
    | cancelRequest => trivial
    | checkTimeouts => trivial
    | step now => exact greedyCalls_step (wellFormed_run S ops) (serves_run S ops).2 hfitsOld hop

end Requests

/-- What the engine has for one request: prefixes of its greedy continuation, and all of it as its text. -/
structure GreedyAnswer {F H L : Type} {mc : ModelConfig} [Field F] (M : QwenModel F H L mc) (argmax : L → ℕ) {ε : Type}
    (S : Setup ε) (s : EngineState ε) (rid : RequestId) (request : List ℕ × SamplingParams) : Prop where
  running : ∀ q, s.queue.runningSeq rid = some q →
    q.outputTokenIds = M.greedyOutputs argmax request.1 q.outputTokenIds.length
  ended : ∀ sg, s.queue.finished.get? rid = some sg → ∀ q ∈ sg.seqs,
    q.outputTokenIds = M.greedyOutputs argmax request.1 q.outputTokenIds.length
  text : ∀ text, s.outputs.get? rid = some text → 1 ≤ request.2.maxTokens →
    text = S.executor.detokenize (M.greedyOutputs argmax request.1 request.2.maxTokens.toNat)

section Texts

variable {F H L R : Type} {mc : ModelConfig} [Field F] {M : QwenModel F H L mc} {argmax : L → ℕ}
  {runner : ModelRunner R L} {Stands : R → KVCachePool F mc → Prop} {tokenizer : Tokenizer} {config : Config}
  {blockHash : List ℕ → ℤ} (himpl : Implements M config runner Stands) (ops : List LLMEngine.Op)
  (hfits : ∀ r ∈ requestsOf (qwenSetup runner argmax tokenizer config blockHash) ops, FitsModel mc r.1 r.2)
  (hsound : (soundHits (qwenSetup runner argmax tokenizer config blockHash)).Run
    (qwenSetup runner argmax tokenizer config blockHash) ops)

include himpl hfits hsound

lemma servesGreedily_run : ServesGreedily M argmax config Stands
    (LLMEngine.run (qwenSetup runner argmax tokenizer config blockHash) ops).core :=
  run_invariant (ServesGreedily.initial himpl) (fun _ _ hw h ht => h.step hw himpl ht)
    (run_refines (greedyCalls_run ops hfits hsound))

lemma finished_text {rid : RequestId} {sg : SequenceGroup}
    (hsg : (LLMEngine.run (qwenSetup runner argmax tokenizer config blockHash) ops).queue.finished.get? rid = some sg)
    {q : Sequence} (hq : q ∈ sg.seqs) (hst : q.status = .finished) :
    ∃ r, (requestsOf (qwenSetup runner argmax tokenizer config blockHash) ops)[rid]? = some r ∧
      (1 ≤ r.2.maxTokens → q.outputTokenIds = M.greedyOutputs argmax r.1 r.2.maxTokens.toNat) := by
  have hended := (servesGreedily_run himpl ops hfits hsound).ended rid sg hsg q hq
  obtain ⟨hprompt, hparams⟩ := finishedAlike_run _ ops rid sg hsg q hq
  refine ⟨_, (serves_run _ ops).2 rid sg (Or.inr (Or.inr (Or.inl hsg))), fun hmax => ?_⟩
  have hgreedy := hended.greedy
  rw [Sequence.IsGreedy, hended.complete hst (hparams ▸ hmax), hprompt, hparams] at hgreedy
  exact hgreedy

lemma outputs_texts {rid : RequestId} {text : List Char}
    (htext : (LLMEngine.run (qwenSetup runner argmax tokenizer config blockHash) ops).outputs.get? rid = some text) :
    ∃ r, (requestsOf (qwenSetup runner argmax tokenizer config blockHash) ops)[rid]? = some r ∧
      (1 ≤ r.2.maxTokens → text = tokenizer.decode (M.greedyOutputs argmax r.1 r.2.maxTokens.toNat)) := by
  induction ops using List.reverseRecOn generalizing rid text with
  | nil => cases htext
  | append_singleton ops op ih =>
    have hall := hfits
    rw [requestsOf_append] at hall
    have hold := ((StepCondition.runFrom_append _ _ ops [op]).mp hsound).1
    have hfinished := @finished_text _ _ _ _ _ _ _ _ _ _ _ _ _ himpl (ops ++ [op]) hfits hsound
    rw [LLMEngine.run_concat] at htext hfinished
    refine apply_outputs (P := fun rid text => ∃ r,
      (requestsOf (qwenSetup runner argmax tokenizer config blockHash) (ops ++ [op]))[rid]? = some r ∧
        (1 ≤ r.2.maxTokens → text = tokenizer.decode (M.greedyOutputs argmax r.1 r.2.maxTokens.toNat)))
      (wellFormed_run _ ops) (fun rid sg hsg q hq hst => ?_) (fun rid text htext => ?_) rid text htext
    · obtain ⟨r, hr, hgreedy⟩ := hfinished hsg hq hst
      exact ⟨r, hr, fun hmax => congrArg tokenizer.decode (hgreedy hmax)⟩
    · obtain ⟨r, hr, hgreedy⟩ := ih (fun r hr => hall r (List.mem_append_left _ hr)) hold htext
      rw [requestsOf_append, List.getElem?_append_left (List.getElem?_eq_some_iff.mp hr).1]
      exact ⟨r, hr, hgreedy⟩

lemma answers_of_implements {rid : RequestId} {request : List ℕ × SamplingParams}
    (hr : (requestsOf (qwenSetup runner argmax tokenizer config blockHash) ops)[rid]? = some request) :
    GreedyAnswer M argmax (qwenSetup runner argmax tokenizer config blockHash)
      (LLMEngine.run (qwenSetup runner argmax tokenizer config blockHash) ops) rid request where
  running q hq := by
    obtain ⟨sg, hsg, -, -, hl⟩ := (wellFormed_run _ ops).queue.runningSeq_group hq
    have hserved := ((serves_run _ ops).2 rid sg (Or.inr (Or.inl hsg))).symm.trans hr
    rw [← congrArg Prod.fst (Option.some.inj hserved), ← hl.prompt]
    exact (servesGreedily_run himpl ops hfits hsound).live rid q hq
  ended sg hsg q hq := by
    have hserved := ((serves_run _ ops).2 rid sg (Or.inr (Or.inr (Or.inl hsg)))).symm.trans hr
    rw [← congrArg Prod.fst (Option.some.inj hserved), ← (finishedAlike_run _ ops rid sg hsg q hq).1]
    exact ((servesGreedily_run himpl ops hfits hsound).ended rid sg hsg q hq).greedy
  text text htext hmax := by
    obtain ⟨r, hr', hgreedy⟩ := outputs_texts himpl ops hfits hsound htext
    obtain rfl := Option.some.inj (hr'.symm.trans hr)
    exact hgreedy hmax

end Texts

section Reference

variable {F H L : Type} {mc : ModelConfig} [Field F] (M : QwenModel F H L mc) (argmax : L → ℕ) (tokenizer : Tokenizer)
  (config : Config) (blockHash : List ℕ → ℤ)

def referenceSetup : Setup (RunnerState (KVCachePool F mc)) :=
  qwenSetup (reference M (allocatePool F mc M.layers.length config.numGpuBlocks config.blockSize)) argmax tokenizer config
    blockHash

lemma allocatePool_shaped (layers : List (QwenDecoderLayer F H mc)) : PoolShaped config config.numGpuBlocks layers
    (allocatePool F mc layers.length config.numGpuBlocks config.blockSize) := by
  refine ⟨List.length_replicate, fun cache hc => ?_⟩
  obtain rfl := List.eq_of_mem_replicate hc
  exact ⟨rfl, rfl⟩

theorem answers_greedily (ops : List LLMEngine.Op)
    (hfits : ∀ r ∈ requestsOf (referenceSetup M argmax tokenizer config blockHash) ops, FitsModel mc r.1 r.2)
    (hsound : (soundHits (referenceSetup M argmax tokenizer config blockHash)).Run
      (referenceSetup M argmax tokenizer config blockHash) ops) (rid : RequestId) (request : List ℕ × SamplingParams)
    (hr : (requestsOf (referenceSetup M argmax tokenizer config blockHash) ops)[rid]? = some request) :
    GreedyAnswer M argmax (referenceSetup M argmax tokenizer config blockHash)
      (LLMEngine.run (referenceSetup M argmax tokenizer config blockHash) ops) rid request :=
  answers_of_implements (reference_implements M (allocatePool_shaped config M.layers)) ops hfits hsound hr

end Reference

section Decidable

variable {ε : Type} (S : Setup ε) (qu : RequestQueue) (bm : BlockManager ε)

instance (sg : SequenceGroup) : Decidable ((soundHits S).probe qu bm sg) := inferInstanceAs (Decidable (True ∧ True))

instance (sg : SequenceGroup) : Decidable ((soundHits S).admission qu bm sg) :=
  inferInstanceAs (Decidable ((settledHits S).admission qu bm sg ∧ (samePrefixHits S).admission qu bm sg))

instance (q : Sequence) (position : ℕ) : Decidable ((soundHits S).ensure qu bm q position) :=
  inferInstanceAs (Decidable ((settledHits S).ensure qu bm q position ∧ (samePrefixHits S).ensure qu bm q position))

instance (prefill decode : List Sequence) : Decidable ((soundHits S).batch qu bm prefill decode) :=
  inferInstanceAs (Decidable (True ∧ True))

end Decidable

def charTokenizer : Tokenizer where
  encode text := text.map Char.toNat
  decode tokens := tokens.map Char.ofNat

def sharingOps : List LLMEngine.Op :=
  [.addRequest ['a', 'b'] 3 0, .step 0, .addRequest ['a', 'c'] 2 0, .step 0, .addRequest ['a', 'b', 'd'] 2 0, .step 0,
    .step 0, .step 0, .step 0]

theorem answers_greedily_of_shared_block :
    GreedyAnswer sumModel (fun row => row.num.natAbs) (referenceSetup sumModel (fun row => row.num.natAbs) charTokenizer
        oneTokenBlocks codeHash) (LLMEngine.run (referenceSetup sumModel (fun row => row.num.natAbs) charTokenizer
        oneTokenBlocks codeHash) sharingOps) 1 ([97, 99], { maxTokens := 2 }) :=
  answers_greedily sumModel (fun row => row.num.natAbs) charTokenizer oneTokenBlocks codeHash sharingOps
    (by decide) (by decide +kernel) 1 ([97, 99], { maxTokens := 2 }) (by decide)

end MiniVllm
