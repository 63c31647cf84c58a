import MiniVllm.SharingProofs.Hits

/-! Cache hits are fresh as long as no mapped block is allocated for something else. -/

namespace MiniVllm

open BlockManager

variable {ε : Type}

def freshHits (S : Setup ε) : CallCondition ε where
  probe _ bm sg := ∀ hit ∈ (computeBlockHashes S.blockHash S.config.blockSize sg.promptTokenIds).zip
    (bm.probePrefixCache S.blockParams sg.promptTokenIds).matchedPhysicalBlockIds,
      bm.lastHash hit.2 = some (some hit.1)
  admission _ bm sg := ∀ hit ∈ (computeBlockHashes S.blockHash S.config.blockSize sg.promptTokenIds).zip
    (bm.probePrefixCache S.blockParams sg.promptTokenIds).matchedPhysicalBlockIds,
      bm.lastHash hit.2 = some (some hit.1)
  ensure _ bm q position := ∀ p ∈ bm.ensureHit S.blockParams q position,
    bm.lastHash p = some (bm.promptHash S.blockParams q position (position / S.config.blockSize))

/-- No block is allocated while the cache maps another hash to it. -/
def reuseSafe (S : Setup ε) : CallCondition ε where
  ensure _ bm q position :=
    (bm.getBlockTable q.seqId).length ≤ position / S.config.blockSize →
      (bm.promptHash S.blockParams q position (position / S.config.blockSize)).bind bm.cachedBlock = none →
        ∀ p ∈ bm.allocator.nextFree, ∀ entry ∈ bm.prefixCache.entries, entry.2 = p →
          bm.promptHash S.blockParams q position (position / S.config.blockSize) = some entry.1

section Decidable

variable (S : Setup ε) (qu : RequestQueue) (bm : BlockManager ε)

instance (sg : SequenceGroup) : Decidable ((freshHits S).probe qu bm sg) :=
  inferInstanceAs (Decidable (∀ hit ∈ _, _))

instance (sg : SequenceGroup) : Decidable ((freshHits S).admission qu bm sg) :=
  inferInstanceAs (Decidable (∀ hit ∈ _, _))

instance (q : Sequence) (position : ℕ) : Decidable ((freshHits S).ensure qu bm q position) :=
  inferInstanceAs (Decidable (∀ p ∈ _, _))

instance (prefill decode : List Sequence) : Decidable ((freshHits S).batch qu bm prefill decode) :=
  inferInstanceAs (Decidable True)

instance (sg : SequenceGroup) : Decidable ((reuseSafe S).probe qu bm sg) := inferInstanceAs (Decidable True)

instance (sg : SequenceGroup) : Decidable ((reuseSafe S).admission qu bm sg) := inferInstanceAs (Decidable True)

instance (q : Sequence) (position : ℕ) : Decidable ((reuseSafe S).ensure qu bm q position) :=
  inferInstanceAs (Decidable (_ → _ → ∀ p ∈ _, ∀ entry ∈ _, _ → _))

instance (prefill decode : List Sequence) : Decidable ((reuseSafe S).batch qu bm prefill decode) :=
  inferInstanceAs (Decidable True)

end Decidable

def FreshCache (bm : BlockManager ε) : Prop :=
  ∀ h p, bm.cachedBlock h = some p → bm.lastHash p = some (some h)

lemma FreshCache.of_live {bm bm' : BlockManager ε} (h : FreshCache bm) (hc : bm'.prefixCache = bm.prefixCache)
    (hh : ∀ p, bm'.lastHash p = bm.lastHash p)
    (hr : ∀ p, 0 < bm'.allocator.getRefCount p → 0 < bm.allocator.getRefCount p) : FreshCache bm' := by
  intro x p hx
  obtain ⟨hm, hp⟩ := cachedBlock_eq_some.mp hx
  rw [hh]
  exact h x p (cachedBlock_eq_some.mpr ⟨hc ▸ hm, hr p hp⟩)

lemma FreshCache.takes {P : BlockParams ε} {sid : SeqId} {hash : Option ℤ} {p : ℕ} {bm bm' : BlockManager ε}
    (h : FreshCache bm) (ht : Takes P sid hash p bm bm')
    (hsafe : ∀ x, bm.prefixCache.get? x = some p → hash = some x) : FreshCache bm' := by
  intro x r hx
  obtain ⟨hm, hr⟩ := cachedBlock_eq_some.mp hx
  rw [lastHash_cons_allocated bm bm' ht.history]
  rw [ht.prefixCache] at hm
  by_cases hrp : r = p
  · rw [if_pos hrp]
    subst hrp
    refine congrArg some ?_
    cases hash with
    | none => exact hsafe x hm
    | some y =>
      simp only [registerBlock, PrefixCache.insert, Dict.get?_set] at hm
      split_ifs at hm with hxy
      · rw [hxy]
      · exact hsafe x hm
  · rw [if_neg hrp]
    rw [ht.refCount, if_neg hrp] at hr
    refine h x r (cachedBlock_eq_some.mpr ⟨?_, hr⟩)
    cases hash with
    | none => exact hm
    | some y =>
      simp only [registerBlock, PrefixCache.insert, Dict.get?_set] at hm
      split_ifs at hm with hxy
      · exact absurd (Option.some.inj hm).symm hrp
      · exact hm

section Run

variable {S : Setup ε}

lemma freshCache_step {s s' : CoreState ε} (hw : WellFormed S s) (h : FreshCache s.blockManager)
    (ht : Transition S (reuseSafe S) s s') : FreshCache s'.blockManager := by
  cases hw.effect ht with
  | idle => exact h
  | requeue => exact h
  | cleanup => exact h
  | failed => exact h
  | done => exact h.of_live rfl (lastHash_record _ (kvWrites_wrote _ _)) (fun _ hp => hp)
  | retire sg q status bm hid hseqs hlive hstatus hf =>
    refine h.of_live hf.prefixCache (lastHash_congr hf.history) fun p hp => ?_
    rw [hf.refCount] at hp
    omega
  | admission sg bm hwait hfresh hc ha =>
    refine h.of_live ha.prefixCache (lastHash_congr ha.history) fun p hp => ?_
    rw [ha.refCount] at hp
    by_cases hm : p ∈ (s.blockManager.probePrefixCache S.blockParams sg.promptTokenIds).matchedPhysicalBlockIds
    · exact probe_live hm
    · simpa [List.count_eq_zero_of_not_mem hm] using hp
  | hit q position hash p bm hready hc hlen hhash hcached hs =>
    refine h.of_live hs.prefixCache (lastHash_congr hs.history) fun r hr => ?_
    by_cases hrp : r = p
    · rw [hrp]
      exact (cachedBlock_eq_some.mp hcached).2
    · simpa [hs.refCount, hrp, Ne.symm hrp] using hr
  | miss q position p bm hready hc hlen hmiss htk =>
    refine h.takes htk fun x hx => ?_
    exact hc hlen.ge hmiss p (Takes.nextFree hw.balanced htk) (x, p)
      ((s.blockManager.prefixCache.mem_entries x p).mpr hx) rfl

lemma freshCache_probe {bm : BlockManager ε} (h : FreshCache bm) (sg : SequenceGroup) :
    ∀ hit ∈ (computeBlockHashes S.blockHash S.config.blockSize sg.promptTokenIds).zip
      (bm.probePrefixCache S.blockParams sg.promptTokenIds).matchedPhysicalBlockIds,
        bm.lastHash hit.2 = some (some hit.1) := by
  intro hit hm
  obtain ⟨i, hi⟩ := List.getElem?_of_mem hm
  obtain ⟨h₁, h₂⟩ := List.getElem?_zip_eq_some.mp hi
  simp only [probePrefixCache] at h₂
  split_ifs at h₂
  · obtain ⟨x, hx, hc⟩ := matchPrefix_getElem? h₂
    obtain rfl : hit.1 = x := Option.some.inj (h₁.symm.trans hx)
    exact h hit.1 hit.2 hc
  · simp at h₂

lemma freshCache_ensure {bm : BlockManager ε} (h : FreshCache bm) (q : Sequence) (position : ℕ) :
    ∀ p ∈ bm.ensureHit S.blockParams q position,
      bm.lastHash p = some (bm.promptHash S.blockParams q position (position / S.config.blockSize)) := by
  intro p hp
  simp only [ensureHit] at hp
  split_ifs at hp
  · obtain ⟨x, hx, hc⟩ := Option.bind_eq_some_iff.mp hp
    have hx' : bm.promptHash S.blockParams q position (position / S.config.blockSize) = some x := hx
    rw [hx']
    exact h x p hc
  · simp at hp

lemma freshCache_reaches {s : CoreState ε} (h : Reaches S (reuseSafe S) (LLMEngine.initial S).core s) :
    FreshCache s.blockManager :=
  run_invariant (I := fun s => FreshCache s.blockManager) (fun x p hx => by cases hx)
    (fun _ _ hw hi ht => freshCache_step hw hi ht) h

variable (S)

theorem hits_fresh (ops : List LLMEngine.Op) (now : ℚ)
    (hrun : (reuseSafe S).Run S (ops ++ [.step now])) :
    FreshCache (LLMEngine.run S ops).blockManager ∧ (freshHits S).Step S (LLMEngine.run S ops) now := by
  obtain ⟨hops, hlast, -⟩ := (StepCondition.runFrom_append _ _ ops [.step now]).mp hrun
  have hreach := run_refines (c := reuseSafe S) (S := S) hops
  have hwf := wellFormed_run S ops
  have hvisit := (step_refines hwf hlast).2
  have hall : ∀ {s}, Reaches S (reuseSafe S) (EngineCore.beginStep S (LLMEngine.run S ops) now).core s →
      FreshCache s.blockManager :=
    fun hs => freshCache_reaches ((hreach.trans (beginStep_refines hwf now)).trans hs)
  refine ⟨freshCache_reaches hreach, CallCondition.Step.imp ?_ ?_ ?_ ?_ hvisit⟩
  · rintro qu bm sg ⟨-, hs, -⟩
    exact freshCache_probe (hall hs) sg
  · rintro qu bm sg ⟨-, hs, -⟩
    exact freshCache_probe (hall hs) sg
  · rintro qu bm q position ⟨-, hs, -⟩
    exact freshCache_ensure (hall hs) q position
  · exact fun _ _ _ _ _ => trivial

def sameBlockThrice : List LLMEngine.Op :=
  [.addRequest ['a'] 1 0, .step 0, .step 0, .addRequest ['a'] 3 0, .step 0, .addRequest ['a'] 3 0]

theorem hits_fresh_of_reallocated_block :
    ((LLMEngine.run oneTokenSetup sameBlockThrice).blockManager.probePrefixCache oneTokenSetup.blockParams
        (oneTokenSetup.executor.tokenize ['a'])).matchedPhysicalBlockIds = [0] ∧
      FreshCache (LLMEngine.run oneTokenSetup sameBlockThrice).blockManager ∧
      (freshHits oneTokenSetup).Step oneTokenSetup (LLMEngine.run oneTokenSetup sameBlockThrice) 0 :=
  ⟨by decide +kernel, hits_fresh oneTokenSetup sameBlockThrice 0 (by decide +kernel)⟩

theorem stale_hit : ¬ ∀ (config : Config) (blockHash : List ℕ → ℤ), Function.Injective blockHash →
    config.enablePrefixCaching = true → ∀ (ops : List LLMEngine.Op) (now : ℚ),
      (freshHits (fakeSetup config blockHash)).Step (fakeSetup config blockHash)
        (LLMEngine.run (fakeSetup config blockHash) ops) now := by
  intro h
  have hstep := h { blockSize := 1, numGpuBlocks := 1 } codeHash codeHash_injective rfl
    [.addRequest ['a'] 1 0, .step 0, .step 0, .addRequest ['b'] 5 0, .step 0, .addRequest ['a'] 1 0] 0
  revert hstep
  decide +kernel

end Run

end MiniVllm
