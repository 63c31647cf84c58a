import MiniVllm.EngineProofs.Requests
import MiniVllm.EngineProofs.Writes
import MiniVllm.SharingProofs.Holders
import MiniVllm.SharingProofs.StaleEntries

/-! In a run that never reuses a mapped block, the entry of a table decides what its block was allocated for. -/

namespace MiniVllm

open BlockManager EngineCore ModelInputBuilder

variable {ε : Type}

section PromptBlocks

variable {blockSize : ℕ} (hbs : 0 < blockSize) {prompt : List ℕ}

include hbs

lemma div_lt_numPromptBlocks {position : ℕ} (h : position < prompt.length) :
    position / blockSize < numPromptBlocks blockSize prompt := by
  rw [numPromptBlocks, Nat.div_lt_iff_lt_mul hbs]
  have := Nat.lt_div_mul_add (a := prompt.length + blockSize - 1) hbs
  omega

lemma lt_numPromptBlocks_iff {i : ℕ} : i < numPromptBlocks blockSize prompt ↔ i * blockSize < prompt.length := by
  rw [numPromptBlocks, ← Nat.succ_le_iff, Nat.le_div_iff_mul_le hbs, Nat.succ_mul]
  omega

end PromptBlocks

lemma computeBlockHashes_length (blockHash : List ℕ → ℤ) (blockSize : ℕ) (prompt : List ℕ) :
    (computeBlockHashes blockHash blockSize prompt).length = numPromptBlocks blockSize prompt := by
  simp [computeBlockHashes]

lemma computeBlockHashes_getElem? {blockHash : List ℕ → ℤ} {blockSize : ℕ} {prompt : List ℕ} {i : ℕ} {x : ℤ} :
    (computeBlockHashes blockHash blockSize prompt)[i]? = some x ↔
      i < numPromptBlocks blockSize prompt ∧ blockHash (promptBlock blockSize prompt i) = x := by
  simp [List.getElem?_eq_some_iff, computeBlockHashes]

def blockLabel (S : Setup ε) (q : Sequence) (i : ℕ) : Option ℤ :=
  if S.config.enablePrefixCaching then (computeBlockHashes S.blockHash S.config.blockSize q.promptTokenIds)[i]?
  else none

section Hashes

variable {S : Setup ε} {s : CoreState ε}

lemma blockLabel_eq_some {q : Sequence} {i : ℕ} {x : ℤ} : blockLabel S q i = some x ↔
    S.config.enablePrefixCaching ∧
      (computeBlockHashes S.blockHash S.config.blockSize q.promptTokenIds)[i]? = some x := by
  rw [blockLabel]
  split_ifs with hon
  · simp [hon]
  · simp [hon]

lemma blockLabel_congr {q q' : Sequence} (h : q.promptTokenIds = q'.promptTokenIds) (i : ℕ) :
    blockLabel S q i = blockLabel S q' i := by
  simp only [blockLabel, h]

lemma blockLabel_of_matched {q : Sequence} {i p : ℕ}
    (h : (s.blockManager.probePrefixCache S.blockParams q.promptTokenIds).matchedPhysicalBlockIds[i]? = some p) :
    ∃ x, blockLabel S q i = some x ∧ s.blockManager.cachedBlock x = some p := by
  simp only [probePrefixCache] at h
  split_ifs at h with hon
  · obtain ⟨x, hx, hc⟩ := matchPrefix_getElem? h
    exact ⟨x, blockLabel_eq_some.mpr ⟨hon, hx⟩, hc⟩
  · simp at h

lemma promptHash_eq_label (hw : WellFormed S s) {q : Sequence} {position : ℕ}
    (hr : EnsureReady S.config s.queue s.blockManager q position)
    (hlen : position / S.config.blockSize = (s.blockManager.getBlockTable q.seqId).length) :
    s.blockManager.promptHash S.blockParams q position (position / S.config.blockSize) =
      blockLabel S q (position / S.config.blockSize) := by
  have hbs := S.config.blockSize_pos
  by_cases hon : S.config.enablePrefixCaching = true
  · have hhashes := hw.hashes hon _ q hr.live
    rw [promptHash, blockLabel, if_pos hon]
    split_ifs with hp
    · rw [hhashes, Option.bind_some]
    · have hge : q.promptTokenIds.length ≤ position := by
        by_contra hlt
        exact hp ⟨by omega, hon⟩
      rcases hr.place with ⟨-, -, hchunk⟩ | ⟨hst, hpos⟩
      · exact absurd (hchunk.trans_le (chunkEnd_le S.config)) hge.not_gt
      · have hcov := hw.covered _ q hr.live
        rw [LivePhase.kvLen_running hst, ← hpos, ← hlen] at hcov
        refine (List.getElem?_eq_none ?_).symm
        rw [computeBlockHashes_length, ← not_lt, lt_numPromptBlocks_iff hbs]
        exact (hge.trans hcov).not_gt
  · rw [promptHash, blockLabel, if_neg hon, if_neg fun hp => hon hp.2]

end Hashes

/-- Every entry of a live table is labelled by the last allocation of its block, and only prompt blocks are shared. -/
structure Labelled (S : Setup ε) (s : CoreState ε) : Prop where
  fresh : FreshCache s.blockManager
  labels : ∀ q i p, Holds s q i p → s.blockManager.lastHash p = some (blockLabel S q i)
  shared : ∀ q i q' j p, Holds s q i p → Holds s q' j p → (q = q' ∧ i = j) ∨ blockLabel S q i ≠ none

section Run

variable {S : Setup ε} {s s' : CoreState ε}

lemma Labelled.of_holds (h : Labelled S s) (hf : FreshCache s'.blockManager)
    (hl : ∀ p, s'.blockManager.lastHash p = s.blockManager.lastHash p) (g : Sequence → Sequence)
    (hg : ∀ q, (g q).promptTokenIds = q.promptTokenIds)
    (hh : ∀ q i p, Holds s' q i p → ∃ q₀, q = g q₀ ∧ Holds s q₀ i p) : Labelled S s' where
  fresh := hf
  labels q i p hq := by
    obtain ⟨q₀, rfl, hq₀⟩ := hh q i p hq
    rw [hl, h.labels q₀ i p hq₀, blockLabel_congr (hg q₀)]
  shared q i q' j p hq hq' := by
    obtain ⟨q₀, rfl, hq₀⟩ := hh q i p hq
    obtain ⟨q₁, rfl, hq₁⟩ := hh q' j p hq'
    rw [blockLabel_congr (hg q₀)]
    exact (h.shared q₀ i q₁ j p hq₀ hq₁).imp (fun he => ⟨congrArg g he.1, he.2⟩) id

lemma Labelled.of_new (h : Labelled S s) (hf : FreshCache s'.blockManager)
    (hlabels : ∀ q i p, Holds s' q i p → s'.blockManager.lastHash p = some (blockLabel S q i))
    (hnew : ∀ q i p, Holds s' q i p → Holds s q i p ∨ blockLabel S q i ≠ none) : Labelled S s' where
  fresh := hf
  labels := hlabels
  shared q i q' j p hq hq' := by
    have heq : blockLabel S q i = blockLabel S q' j :=
      Option.some.inj ((hlabels q i p hq).symm.trans (hlabels q' j p hq'))
    rcases hnew q i p hq with ho | hn
    · rcases hnew q' j p hq' with ho' | hn'
      · exact h.shared q i q' j p ho ho'
      · exact Or.inr (heq ▸ hn')
    · exact Or.inr hn

lemma Labelled.same_hash (h : Labelled S s) {q q' : Sequence} {i j p : ℕ} (hq : Holds s q i p) (hq' : Holds s q' j p) :
    (q = q' ∧ i = j) ∨ ∃ x, (computeBlockHashes S.blockHash S.config.blockSize q.promptTokenIds)[i]? = some x ∧
      (computeBlockHashes S.blockHash S.config.blockSize q'.promptTokenIds)[j]? = some x := by
  refine (h.shared q i q' j p hq hq').imp id fun hlabel => ?_
  obtain ⟨x, hx⟩ := Option.ne_none_iff_exists'.mp hlabel
  have hx' : blockLabel S q' j = some x :=
    (Option.some.inj ((h.labels q' j p hq').symm.trans (h.labels q i p hq))).trans hx
  exact ⟨x, (blockLabel_eq_some.mp hx).2, (blockLabel_eq_some.mp hx').2⟩

theorem labelled_step (hw : WellFormed S s) (h : Labelled S s) (ht : Transition S (reuseSafe S) s s') :
    Labelled S s' := by
  have hfresh := freshCache_step hw h.fresh ht
  cases hw.effect ht with
  | idle => exact h
  | cleanup => exact h.of_holds hfresh (fun _ => rfl) id (fun _ => rfl) fun q _ _ hh => ⟨q, rfl, hh.live, hh.entry⟩
  | failed => exact h.of_holds hfresh (fun _ => rfl) id (fun _ => rfl) fun q _ _ hh => ⟨q, rfl, hh.live, hh.entry⟩
  | requeue queue n hrun =>
    have hsame : ∀ rid, queue.runningSeq rid = s.queue.runningSeq rid := by
      intro rid
      simp only [RequestQueue.runningSeq, hrun]
    exact h.of_holds hfresh (fun _ => rfl) id (fun _ => rfl) fun q _ _ hh => ⟨q, rfl, hsame _ ▸ hh.live, hh.entry⟩
  | done prefill decode output x queue hready hc hexec hwt hfn hrj hrun =>
    exact h.of_holds hfresh (lastHash_record _ (kvWrites_wrote _ _)) _ (fun q => afterBatch_prompt _ _ _ _ q)
      fun q _ _ hh => hh.of_batch hrun
  | retire sg q₀ status bm hid hseqs hlive hstatus hf =>
    exact h.of_holds hfresh (lastHash_congr hf.history) id (fun _ => rfl) fun q _ _ hh =>
      ⟨q, rfl, (hh.of_retire hf).2⟩
  | admission sg bm hwait hnone hc ha =>
    have hlast : ∀ p, bm.lastHash p = s.blockManager.lastHash p := lastHash_congr ha.history
    refine h.of_new hfresh (fun q i p hh => ?_) fun q i p hh => ?_
    · rcases hh.of_admission hw hwait ha with ⟨-, ho⟩ | ⟨rfl, hm⟩
      · exact (hlast p).trans (h.labels q i p ho)
      · obtain ⟨x, hx, hcached⟩ := blockLabel_of_matched (q := Scheduler.admittedSeq S s.blockManager sg) hm
        rw [hx]
        exact (hlast p).trans (h.fresh x p hcached)
    · rcases hh.of_admission hw hwait ha with ⟨-, ho⟩ | ⟨rfl, hm⟩
      · exact Or.inl ho
      · obtain ⟨x, hx, -⟩ := blockLabel_of_matched (q := Scheduler.admittedSeq S s.blockManager sg) hm
        exact Or.inr (hx ▸ Option.some_ne_none x)
  | hit q position hash p bm hready hc hlen hhash hcached hs =>
    have hlast : ∀ r, bm.lastHash r = s.blockManager.lastHash r := lastHash_congr hs.history
    rw [promptHash_eq_label hw hready hlen, hlen] at hhash
    have hown : ∀ q' i, q'.seqId = q.seqId → Holds ⟨s.queue, bm, s.seqGroupCount⟩ q' i p →
        i = (s.blockManager.getBlockTable q.seqId).length → blockLabel S q' i = some hash := by
      rintro q' i hid hh rfl
      rw [hw.queue.runningSeq_ext hh.live hready.live hid, hhash]
    refine h.of_new hfresh (fun q' i r hh => ?_) fun q' i r hh => ?_
    · rcases hh.of_append hs.table with ho | ⟨hid, hi, rfl⟩
      · exact (hlast r).trans (h.labels q' i r ho)
      · rw [hown q' i hid hh hi]
        exact (hlast r).trans (h.fresh hash r hcached)
    · rcases hh.of_append hs.table with ho | ⟨hid, hi, rfl⟩
      · exact Or.inl ho
      · exact Or.inr (hown q' i hid hh hi ▸ Option.some_ne_none hash)
  | miss q position p bm hready hc hlen hmiss htk =>
    have hlast := lastHash_cons_allocated s.blockManager bm htk.history
    have hfree : ∀ q' i, ¬ Holds s q' i p := fun q' i ho =>
      absurd ho.mem (hw.balanced.not_mem_of_isFree htk.wasFree q'.seqId)
    have hnew : ∀ q' i r, Holds ⟨s.queue, bm, s.seqGroupCount⟩ q' i r →
        (r ≠ p ∧ Holds s q' i r) ∨ (r = p ∧ q' = q ∧ i = (s.blockManager.getBlockTable q.seqId).length) := by
      intro q' i r hh
      rcases hh.of_append htk.table with ho | ⟨hid, hi, rfl⟩
      · exact Or.inl ⟨fun hr => hfree q' i (hr ▸ ho), ho⟩
      · exact Or.inr ⟨rfl, hw.queue.runningSeq_ext hh.live hready.live hid, hi⟩
    refine ⟨hfresh, fun q' i r hh => ?_, fun q₁ i₁ q₂ i₂ r h₁ h₂ => ?_⟩
    · rcases hnew q' i r hh with ⟨hr, ho⟩ | ⟨rfl, rfl, rfl⟩
      · rw [hlast, if_neg hr, h.labels q' i r ho]
      · rw [hlast, if_pos rfl, ← hlen]
        exact congrArg some (promptHash_eq_label hw hready hlen)
    · rcases hnew q₁ i₁ r h₁ with ⟨hr, o₁⟩ | ⟨rfl, rfl, rfl⟩
      · rcases hnew q₂ i₂ r h₂ with ⟨-, o₂⟩ | ⟨rfl, -, -⟩
        · exact h.shared q₁ i₁ q₂ i₂ r o₁ o₂
        · exact absurd rfl hr
      · rcases hnew q₂ i₂ r h₂ with ⟨hr, -⟩ | ⟨-, rfl, rfl⟩
        · exact absurd rfl hr
        · exact Or.inl ⟨rfl, rfl⟩

theorem labelled_reaches (h : Reaches S (reuseSafe S) (LLMEngine.initial S).core s) : Labelled S s := by
  refine run_invariant (I := Labelled S) ?_ (fun _ _ hw hi ht => labelled_step hw hi ht) h
  have hnone : ∀ q i p, ¬ Holds (LLMEngine.initial S).core q i p := by
    rintro q i p ⟨hlive, -⟩
    cases hlive
  exact ⟨fun _ _ hx => (nomatch hx), fun q i p hh => absurd hh (hnone q i p),
    fun q i _ _ p hh _ => absurd hh (hnone q i p)⟩

end Run

end MiniVllm
