import MiniVllm.SharingProofs.Exclusive
import MiniVllm.SharingProofs.Labels

/-! Injective tables, and shared blocks that imply shared prompt prefixes. -/

namespace MiniVllm

open BlockManager EngineCore ModelInputBuilder

variable {ε : Type}

structure InjectiveTable (config : Config) (bm : BlockManager ε) (sid : SeqId) : Prop where
  blocks : (bm.getBlockTable sid).Nodup
  slots : ∀ a b, a / config.blockSize < (bm.getBlockTable sid).length →
    b / config.blockSize < (bm.getBlockTable sid).length →
      slotOf config bm sid a = slotOf config bm sid b → a = b

lemma InjectiveTable.of_nodup {config : Config} {bm : BlockManager ε} {sid : SeqId}
    (h : (bm.getBlockTable sid).Nodup) : InjectiveTable config bm sid := by
  refine ⟨h, fun a b ha hb hab => ?_⟩
  obtain ⟨hblock, hoff⟩ := (slotOf_eq_iff config bm sid sid a b).mp hab
  have hdiv : a / config.blockSize = b / config.blockSize := by
    simp only [List.getD_eq_getElem?_getD, List.getElem?_eq_getElem ha, List.getElem?_eq_getElem hb,
      Option.getD_some] at hblock
    exact h.getElem_inj_iff.mp hblock
  rw [← Nat.div_add_mod a config.blockSize, ← Nat.div_add_mod b config.blockSize, hdiv, hoff]

section Injective

variable (S : Setup ε)

theorem tables_injective (ops : List LLMEngine.Op)
    (hrun : S.config.enablePrefixCaching = true → (reuseSafe S).Run S ops)
    (hprompts : S.config.enablePrefixCaching = true → ∀ r ∈ requestsOf S ops,
      (computeBlockHashes S.blockHash S.config.blockSize r.1).Nodup) :
    ∀ q ∈ (LLMEngine.run S ops).queue.liveSeqs,
      InjectiveTable S.config (LLMEngine.run S ops).blockManager q.seqId := by
  intro q hq
  have hlive := (wellFormed_run S ops).queue.mem_liveSeqs.mp hq
  refine .of_nodup (List.nodup_iff_getElem?_ne_getElem?.mpr fun i j hij hlt heq => hij.ne ?_)
  have hp := List.getElem?_eq_getElem hlt
  have hi : Holds (LLMEngine.run S ops).core q i _ := ⟨hlive, heq.trans hp⟩
  have hj : Holds (LLMEngine.run S ops).core q j _ := ⟨hlive, hp⟩
  cases hon : S.config.enablePrefixCaching with
  | false => exact ((exclusive_rule hon).reaches (run_refines (runFrom_true _ ops)) q i q j _ hi hj).2
  | true =>
    rcases (labelled_reaches (run_refines (hrun hon))).same_hash hi hj with ⟨-, hsame⟩ | ⟨x, hx, hx'⟩
    · exact hsame
    · have hnodup := hprompts hon _ (List.mem_of_getElem? (live_request S ops hq))
      exact (List.getElem?_inj (List.getElem?_eq_some_iff.mp hx).1 hnodup).mp (hx.trans hx'.symm)

def reallocations : List LLMEngine.Op :=
  [.addRequest ['a', 'b'] 1 0, .step 0, .step 0, .addRequest ['a', 'b'] 3 0, .addRequest ['a', 'c'] 3 0, .step 0]

theorem tables_injective_of_reallocated_blocks :
    ((LLMEngine.run oneTokenSetup reallocations).queue.liveSeqs.map (fun q =>
        (LLMEngine.run oneTokenSetup reallocations).blockManager.getBlockTable q.seqId)) = [[0, 1], [0, 2]] ∧
    ∀ q ∈ (LLMEngine.run oneTokenSetup reallocations).queue.liveSeqs,
      InjectiveTable oneTokenBlocks (LLMEngine.run oneTokenSetup reallocations).blockManager q.seqId :=
  ⟨by decide +kernel,
    tables_injective oneTokenSetup reallocations (fun _ => by decide +kernel) (fun _ => by decide +kernel)⟩

theorem own_block_shared : ¬ ∀ (config : Config) (blockHash : List ℕ → ℤ), Function.Injective blockHash →
    ∀ ops : List LLMEngine.Op, ∀ q ∈ (LLMEngine.run (fakeSetup config blockHash) ops).queue.liveSeqs,
      InjectiveTable config (LLMEngine.run (fakeSetup config blockHash) ops).blockManager q.seqId := by
  intro h
  have hnodup : ∀ q ∈ (LLMEngine.run oneTokenSetup
        [.addRequest ['a', 'a'] 3 0, .step 0]).queue.liveSeqs,
      ((LLMEngine.run oneTokenSetup
        [.addRequest ['a', 'a'] 3 0, .step 0]).blockManager.getBlockTable q.seqId).Nodup :=
    fun q hq => (h oneTokenBlocks codeHash codeHash_injective
      [.addRequest ['a', 'a'] 3 0, .step 0] q hq).blocks
  revert hnodup
  decide +kernel

end Injective

structure SamePrefix (blockSize i : ℕ) (xs ys : List ℕ) : Prop where
  left : i < numPromptBlocks blockSize xs
  right : i < numPromptBlocks blockSize ys
  blocks : ∀ k < i + 1, promptBlock blockSize xs k = promptBlock blockSize ys k

instance (blockSize i : ℕ) (xs ys : List ℕ) : Decidable (SamePrefix blockSize i xs ys) :=
  decidable_of_iff (i < numPromptBlocks blockSize xs ∧ i < numPromptBlocks blockSize ys ∧
      ∀ k < i + 1, promptBlock blockSize xs k = promptBlock blockSize ys k)
    ⟨fun h => ⟨h.1, h.2.1, h.2.2⟩, fun h => ⟨h.left, h.right, h.blocks⟩⟩

lemma SamePrefix.symm {blockSize i : ℕ} {xs ys : List ℕ} (h : SamePrefix blockSize i xs ys) :
    SamePrefix blockSize i ys xs :=
  ⟨h.right, h.left, fun k hk => (h.blocks k hk).symm⟩

def PrefixShared (config : Config) (s : EngineState ε) : Prop :=
  ∀ q ∈ s.queue.liveSeqs, ∀ q' ∈ s.queue.liveSeqs, q.seqId ≠ q'.seqId →
    ∀ i < (s.blockManager.getBlockTable q.seqId).length, ∀ j < (s.blockManager.getBlockTable q'.seqId).length,
      (s.blockManager.getBlockTable q.seqId)[i]? = (s.blockManager.getBlockTable q'.seqId)[j]? →
        i = j ∧ SamePrefix config.blockSize i q.promptTokenIds q'.promptTokenIds

instance (config : Config) (s : EngineState ε) : Decidable (PrefixShared config s) :=
  inferInstanceAs (Decidable (∀ q ∈ _, ∀ q' ∈ _, _ → ∀ i < _, ∀ j < _, _ → _ ∧ _))

section Prefix

/-- Equal blocks of two prompts lie at one index, after equal blocks. -/
def BlocksAligned (blockSize : ℕ) (xs ys : List ℕ) : Prop :=
  ∀ i < numPromptBlocks blockSize xs, ∀ j < numPromptBlocks blockSize ys,
    promptBlock blockSize xs i = promptBlock blockSize ys j → i = j ∧ SamePrefix blockSize i xs ys

instance (blockSize : ℕ) (xs ys : List ℕ) : Decidable (BlocksAligned blockSize xs ys) :=
  inferInstanceAs (Decidable (∀ i < _, ∀ j < _, _ → _ ∧ _))

lemma BlocksAligned.symm {blockSize : ℕ} {xs ys : List ℕ} (h : BlocksAligned blockSize xs ys) :
    BlocksAligned blockSize ys xs := by
  intro i hi j hj hij
  obtain ⟨rfl, hpre⟩ := h j hj i hi hij.symm
  exact ⟨rfl, hpre.symm⟩

lemma requests_aligned {blockSize : ℕ} {requests : List (List ℕ × SamplingParams)}
    (h : requests.Pairwise (fun r r' => BlocksAligned blockSize r.1 r'.1)) {i j : ℕ} {r r' : List ℕ × SamplingParams}
    (hi : requests[i]? = some r) (hj : requests[j]? = some r') (hne : i ≠ j) : BlocksAligned blockSize r.1 r'.1 := by
  obtain ⟨hi', rfl⟩ := List.getElem?_eq_some_iff.mp hi
  obtain ⟨hj', rfl⟩ := List.getElem?_eq_some_iff.mp hj
  rcases Nat.lt_or_gt_of_ne hne with hlt | hgt
  · exact List.pairwise_iff_getElem.mp h i j hi' hj' hlt
  · exact (List.pairwise_iff_getElem.mp h j i hj' hi' hgt).symm

variable (S : Setup ε)

theorem prefixes_shared (hinj : Function.Injective S.blockHash) (ops : List LLMEngine.Op)
    (hrun : (reuseSafe S).Run S ops)
    (hprompts : (requestsOf S ops).Pairwise (fun r r' => BlocksAligned S.config.blockSize r.1 r'.1)) :
    PrefixShared S.config (LLMEngine.run S ops) := by
  intro q hq q' hq' hne i hi j _ hij
  have hqueue := (wellFormed_run S ops).queue
  have hp := List.getElem?_eq_getElem hi
  have hlive := hqueue.mem_liveSeqs.mp hq
  have hlive' := hqueue.mem_liveSeqs.mp hq'
  have hh : Holds (LLMEngine.run S ops).core q i _ := ⟨hlive, hp⟩
  have hh' : Holds (LLMEngine.run S ops).core q' j _ := ⟨hlive', hij ▸ hp⟩
  rcases (labelled_reaches (run_refines hrun)).same_hash hh hh' with ⟨rfl, -⟩ | ⟨x, hx, hx'⟩
  · exact absurd rfl hne
  · have hrequest : q.seqId.request ≠ q'.seqId.request := by
      intro heq
      rw [hqueue.runningSeq_seqId hlive, hqueue.runningSeq_seqId hlive', heq] at hne
      exact hne rfl
    have haligned := requests_aligned hprompts (live_request S ops hq) (live_request S ops hq') hrequest
    obtain ⟨hi', hbi⟩ := computeBlockHashes_getElem?.mp hx
    obtain ⟨hj', hbj⟩ := computeBlockHashes_getElem?.mp hx'
    exact haligned i hi' j hj' (hinj (hbi.trans hbj.symm))

theorem prefixes_shared_of_common_block :
    ((LLMEngine.run oneTokenSetup reallocations).queue.liveSeqs.map (fun q =>
        (LLMEngine.run oneTokenSetup reallocations).blockManager.getBlockTable q.seqId)) = [[0, 1], [0, 2]] ∧
    PrefixShared oneTokenBlocks (LLMEngine.run oneTokenSetup reallocations) :=
  ⟨by decide +kernel,
    prefixes_shared oneTokenSetup codeHash_injective reallocations (by decide +kernel) (by decide +kernel)⟩

theorem second_block_shared : ¬ ∀ (config : Config) (blockHash : List ℕ → ℤ), Function.Injective blockHash →
    config.enablePrefixCaching = true → ∀ ops : List LLMEngine.Op,
      PrefixShared config (LLMEngine.run (fakeSetup config blockHash) ops) := by
  intro h
  have hshared := h oneTokenBlocks codeHash codeHash_injective rfl
    [.addRequest ['a', 'x'] 3 0, .addRequest ['b', 'x'] 3 0, .step 0]
  revert hshared
  decide +kernel

end Prefix

end MiniVllm
