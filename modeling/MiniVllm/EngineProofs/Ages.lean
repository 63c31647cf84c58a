import MiniVllm.EngineProofs.Written

/-! How a live sequence ages: its tokens and its table grow, and what was written for it stays. -/

namespace MiniVllm

open EngineCore ModelInputBuilder

variable {ε : Type} {S : Setup ε} {c : CallCondition ε}

structure Ages (config : Config) (bm : BlockManager ε) (q : Sequence) (bm' : BlockManager ε) (q' : Sequence) :
    Prop where
  seqId : q'.seqId = q.seqId
  prompt : q'.promptTokenIds = q.promptTokenIds
  tokens : q.tokens <+: q'.tokens
  table : bm.getBlockTable q.seqId <+: bm'.getBlockTable q.seqId
  kvLen : q.kvLen ≤ q'.kvLen
  kept : ∀ r < q.kvLen, Written config bm q r → Written config bm' q' r
  new : ∀ r, q.kvLen ≤ r → r < q'.kvLen → Written config bm' q' r

namespace Ages

lemma refl (config : Config) (bm : BlockManager ε) (q : Sequence) : Ages config bm q bm q :=
  ⟨rfl, rfl, List.prefix_rfl, List.prefix_rfl, le_refl _, fun _ _ h => h, fun _ h₁ h₂ => by omega⟩

lemma trans {config : Config} {b₁ b₂ b₃ : BlockManager ε} {q₁ q₂ q₃ : Sequence} (h : Ages config b₁ q₁ b₂ q₂)
    (g : Ages config b₂ q₂ b₃ q₃) : Ages config b₁ q₁ b₃ q₃ where
  seqId := g.seqId.trans h.seqId
  prompt := g.prompt.trans h.prompt
  tokens := h.tokens.trans g.tokens
  table := h.table.trans (h.seqId ▸ g.table)
  kvLen := h.kvLen.trans g.kvLen
  kept r hr hw := g.kept r (hr.trans_le h.kvLen) (h.kept r hr hw)
  new r h₁ h₂ := by
    rcases Nat.lt_or_ge r q₂.kvLen with hlt | hge
    · exact g.kept r hlt (h.new r h₁ hlt)
    · exact g.new r hge h₂

end Ages

lemma LivePhase.kvLen_le_tokens {q : Sequence} (h : LivePhase q) : q.kvLen ≤ q.tokens.length := by
  rw [Sequence.tokens, List.length_append]
  rcases h with ⟨hs, -, -, hc⟩ | ⟨hs, -, h₁, h₂, -⟩
  · rw [kvLen_prefill hs]
    omega
  · rw [kvLen_running hs, decodePosition]
    omega

lemma take_of_isPrefix {xs ys : List ℕ} {n : ℕ} (h : xs <+: ys) (hn : n ≤ xs.length) : ys.take n = xs.take n := by
  obtain ⟨zs, rfl⟩ := h
  exact List.take_append_of_le_length hn

lemma getElem?_of_isPrefix {xs ys : List ℕ} {i : ℕ} (h : xs <+: ys) (hi : i < xs.length) : ys[i]? = xs[i]? := by
  obtain ⟨zs, rfl⟩ := h
  exact List.getElem?_append_left hi

section Step

variable {s s' : CoreState ε} (hw : WellFormed S s) {q : Sequence} {rid : RequestId}
  (hq : s.queue.runningSeq rid = some q)

include hw hq

lemma WellFormed.covered_lt {r : ℕ} (hr : r < q.kvLen) :
    r / S.config.blockSize < (s.blockManager.getBlockTable q.seqId).length :=
  (Nat.div_lt_iff_lt_mul S.config.blockSize_pos).mpr (hr.trans_le (hw.covered rid q hq))

lemma Ages.of_table {bm : BlockManager ε}
    (ht : s.blockManager.getBlockTable q.seqId <+: bm.getBlockTable q.seqId)
    (hkept : ∀ p ∈ s.blockManager.getBlockTable q.seqId, ∀ e ∈ s.blockManager.sinceAllocated p,
      e ∈ bm.sinceAllocated p) : Ages S.config s.blockManager q bm q := by
  refine ⟨rfl, rfl, List.prefix_rfl, ht, le_refl _, fun r hr h => ?_, fun r h₁ h₂ => by omega⟩
  have hcov := hw.covered_lt hq hr
  refine h.mono (getElem?_of_isPrefix ht hcov) rfl (hkept _ ?_)
  rw [List.getD_eq_getElem?_getD, List.getElem?_eq_getElem hcov, Option.getD_some]
  exact List.getElem_mem hcov

lemma Ages.of_same {bm : BlockManager ε} (ht : bm.getBlockTable q.seqId = s.blockManager.getBlockTable q.seqId)
    (hh : bm.history = s.blockManager.history) : Ages S.config s.blockManager q bm q :=
  of_table hw hq (ht ▸ List.prefix_rfl) fun p _ e he => by rwa [BlockManager.sinceAllocated_congr hh]

omit hq in
lemma tokens_afterBatch {prefill decode : List Sequence} (hr : BatchReady S.config s.queue s.blockManager prefill decode)
    (token : SeqId → ℕ) (hlive : s.queue.runningSeq rid = some q) :
    q.tokens <+: (afterBatch S.config (prefill.map (·.seqId)) (decode.map (·.seqId)) token q).tokens := by
  by_cases hp : q ∈ prefill
  · rcases hw.queue.runningSeq_phase hlive with ⟨-, hout, -⟩ | ⟨hs, -⟩
    · have htok : q.tokens = q.promptTokenIds := by rw [Sequence.tokens, hout, List.append_nil]
      rw [htok, Sequence.tokens, afterBatch_prompt]
      exact List.prefix_append _ _
    · simp [(hr.prefill_live q hp).2] at hs
  · by_cases hd : q ∈ decode
    · rw [afterBatch_decode hw.queue hr token hlive hd]
      simp only [Sequence.tokens, ← List.append_assoc]
      exact List.prefix_append _ _
    · rw [afterBatch_idle hw.queue hr token hlive hp hd]

lemma mem_ensureCalls_of_new {prefill decode : List Sequence}
    (hr : BatchReady S.config s.queue s.blockManager prefill decode) (token : SeqId → ℕ) {r : ℕ} (h₁ : q.kvLen ≤ r)
    (h₂ : r < (afterBatch S.config (prefill.map (·.seqId)) (decode.map (·.seqId)) token q).kvLen) :
    (q, r) ∈ ensureCalls S.config prefill decode ∧ r < q.tokens.length := by
  have hphase := hw.queue.runningSeq_phase hq
  by_cases hp : q ∈ prefill
  · rw [kvLen_afterBatch_prefill hw.queue hr token hq hp] at h₂
    rw [LivePhase.kvLen_prefill (hr.prefill_live q hp).2] at h₁
    have hle := chunkEnd_le S.config (q := q)
    exact ⟨mem_ensureCalls.mpr (Or.inl ⟨hp, h₁, h₂⟩), by rw [Sequence.tokens, List.length_append]; omega⟩
  · by_cases hd : q ∈ decode
    · rw [kvLen_afterBatch_decode hw.queue hr token hq hd] at h₂
      obtain ⟨-, hs, -⟩ := hr.decode_live q hd
      rw [LivePhase.kvLen_running hs] at h₁
      obtain ⟨-, hg₁, hg₂⟩ := hphase.decode hs
      refine ⟨mem_ensureCalls.mpr (Or.inr ⟨hd, by simp only; omega⟩), ?_⟩
      rw [Sequence.tokens, List.length_append]
      simp only [decodePosition] at h₁ h₂
      omega
    · rw [afterBatch_idle hw.queue hr token hq hp hd] at h₂
      omega

lemma Ages.of_batch {prefill decode : List Sequence} (hr : BatchReady S.config s.queue s.blockManager prefill decode)
    (token : SeqId → ℕ) (x : ε) :
    Ages S.config s.blockManager q
      ((s.blockManager.withListener x).record (kvWrites (prefill ++ decode)
        (batchInput S.config s.blockManager prefill decode)))
      (afterBatch S.config (prefill.map (·.seqId)) (decode.map (·.seqId)) token q) := by
  have hid := afterBatch_seqId token S.config (prefill.map (·.seqId)) (decode.map (·.seqId)) q
  have htokens := tokens_afterBatch hw hr token hq
  have hlen := (hw.queue.runningSeq_phase hq).kvLen_le_tokens
  refine ⟨hid, afterBatch_prompt token _ _ _ q, htokens, List.prefix_rfl,
    kvLen_le_afterBatch hw.queue hr token hq, fun r hlt h => ?_, fun r h₁ h₂ => ?_⟩
  · refine h.mono (by rw [hid]; rfl) (take_of_isPrefix htokens (by omega)) fun e he => ?_
    exact BlockManager.mem_sinceAllocated_record _ (kvWrites_wrote _ _) (Or.inr he)
  · have hcall := mem_ensureCalls_of_new hw hq hr token h₁ h₂
    refine Written.of_event (v := q.seqId) ?_
      (take_of_isPrefix htokens hcall.2).symm
    rw [hid]
    refine BlockManager.mem_sinceAllocated_record _ (kvWrites_wrote _ _) (Or.inl ?_)
    rw [hr.kvWrites_eq]
    exact List.mem_map.mpr ⟨(q, r), hcall.1, rfl⟩

end Step

theorem Transition.ages {s s' : CoreState ε} (hw : WellFormed S s) (ht : Transition S c s s') {rid : RequestId}
    {q' : Sequence} (hq' : s'.queue.runningSeq rid = some q') :
    (∃ q, s.queue.runningSeq rid = some q ∧ Ages S.config s.blockManager q s'.blockManager q') ∨
      ∃ sg, s.queue.waiting.get? sg.requestId = some sg ∧ sg.requestId = rid ∧ c.admission s.queue s.blockManager sg ∧
        q' = Scheduler.admittedSeq S s.blockManager sg ∧
        BlockManager.Admits S.blockParams ⟨sg.requestId, 0⟩ sg.promptTokenIds s.blockManager s'.blockManager := by
  cases hw.effect ht with
  | idle => exact Or.inl ⟨q', hq', .refl _ _ _⟩
  | requeue queue n hrun =>
    have hlive : s.queue.runningSeq rid = some q' := by simpa only [RequestQueue.runningSeq, hrun] using hq'
    exact Or.inl ⟨q', hlive, .refl _ _ _⟩
  | cleanup sid => exact Or.inl ⟨q', hq', .of_same hw hq' rfl rfl⟩
  | failed prefill decode err x => exact Or.inl ⟨q', hq', .of_same hw hq' rfl rfl⟩
  | retire sg q status bm hid hseqs hlive hstatus hf =>
    rw [RequestQueue.runningSeq_markFinished] at hq'
    split_ifs at hq' with hr
    refine Or.inl ⟨q', hq', .of_same hw hq' ?_ hf.history⟩
    rw [hid] at hr
    rw [hf.table, if_neg (hw.queue.seqId_ne hq' hr)]
  | admission sg bm hwait hfresh hc ha =>
    rw [hw.runningSeq_admission hwait] at hq'
    split_ifs at hq' with hr
    · exact Or.inr ⟨sg, hwait, hr.symm, hc, (Option.some.inj hq').symm, ha⟩
    · refine Or.inl ⟨q', hq', .of_same hw hq' ?_ ha.history⟩
      rw [ha.table, if_neg (hw.queue.seqId_ne hq' hr)]
  | hit q position hash p bm hready hc hlen hhash hcached hs =>
    refine Or.inl ⟨q', hq', .of_table hw hq' (BlockManager.isPrefix_of_grown hs.table q'.seqId) fun b _ e he => ?_⟩
    rwa [BlockManager.sinceAllocated_congr hs.history]
  | miss q position p bm hready hc hlen hmiss htk =>
    refine Or.inl ⟨q', hq', .of_table hw hq' (BlockManager.isPrefix_of_grown htk.table q'.seqId) fun b hb e he => ?_⟩
    refine BlockManager.mem_sinceAllocated_cons htk.history ?_ he
    rintro rfl
    exact hw.balanced.not_mem_of_isFree htk.wasFree _ hb
  | done prefill decode output x queue hready hc hexec hwt hfn hrj hrun =>
    rw [RequestQueue.runningSeq_map hrun] at hq'
    obtain ⟨q, hq, rfl⟩ := Option.map_eq_some_iff.mp hq'
    exact Or.inl ⟨q, hq, .of_batch hw hq hready _ x⟩

lemma Transition.not_waiting {s s' : CoreState ε} (hw : WellFormed S s) (ht : Transition S c s s')
    {rid : RequestId} (hlt : rid < s.seqGroupCount) (hn : s.queue.waiting.get? rid = none) :
    s'.queue.waiting.get? rid = none := by
  cases ht with
  | submit sg hid hseqs =>
    simp only [RequestQueue.add, Dict.get?_set, hid]
    rwa [if_neg (Nat.ne_of_lt hlt)]
  | retire => exact hn
  | cleanup => exact hn
  | withdraw sg hwait =>
    simp only [RequestQueue.withdraw, Dict.get?_pop]
    split_ifs
    · rfl
    · exact hn
  | reject sg hwait =>
    simp only [RequestQueue.markRejected, Dict.get?_pop]
    split_ifs
    · rfl
    · exact hn
  | refile => exact hn
  | admission sg hwait =>
    simp only [RequestQueue.markRunning, Dict.get?_pop]
    split_ifs
    · rfl
    · exact hn
  | ensure => exact hn
  | batch prefill decode hready =>
    obtain ⟨r, queue, bm, hbatch, hspec⟩ := hw.runBatch_cases hready
    simp only [hbatch]
    cases hspec with
    | failed => exact hn
    | done output x _ hexec hwt => rwa [hwt]

lemma Reaches.stays_out {s s' : CoreState ε} (hw : WellFormed S s) (hr : Reaches S c s s') {rid : RequestId}
    (hlt : rid < s.seqGroupCount) (hn : s.queue.waiting.get? rid = none) : s'.queue.waiting.get? rid = none := by
  induction hr with
  | refl => exact hn
  | tail hr ht ih => exact ht.not_waiting (hw.reaches hr) (hlt.trans_le (Reaches.seqGroupCount_le hr)) ih

lemma Reaches.not_waiting {s s' : CoreState ε} (hw : WellFormed S s) (hr : Reaches S c s s') {rid : RequestId}
    {q : Sequence} (hq : s.queue.runningSeq rid = some q) : s'.queue.waiting.get? rid = none := by
  obtain ⟨sg, hsg, -⟩ := hw.queue.runningSeq_eq_some.mp hq
  exact Reaches.stays_out hw hr (hw.queue.running rid sg hsg).2.1 (hw.queue.waiting_of_running hsg)

theorem Reaches.ages {s s' : CoreState ε} (hw : WellFormed S s) (hr : Reaches S c s s') {rid : RequestId}
    {q' : Sequence} (hq' : s'.queue.runningSeq rid = some q') :
    (∃ q, s.queue.runningSeq rid = some q ∧ Ages S.config s.blockManager q s'.blockManager q') ∨
      (s.queue.runningSeq rid = none ∧ ∃ qu bm sg, c.admission qu bm sg) := by
  induction hr generalizing q' with
  | refl => exact Or.inl ⟨q', hq', .refl _ _ _⟩
  | tail hr ht ih =>
    rcases ht.ages (hw.reaches hr) hq' with ⟨q₁, hq₁, h₁⟩ | ⟨sg, hwait, rfl, hc, -⟩
    · exact (ih hq₁).imp_left fun ⟨q, hq, h⟩ => ⟨q, hq, h.trans h₁⟩
    · refine Or.inr ⟨Option.eq_none_iff_forall_not_mem.mpr fun q hq => ?_, _, _, sg, hc⟩
      rw [Reaches.not_waiting hw hr hq] at hwait
      cases hwait

end MiniVllm
