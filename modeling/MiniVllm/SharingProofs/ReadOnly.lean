import MiniVllm.EngineProofs.Writes
import MiniVllm.SharingProofs.Holders

/-! Shared KV is read-only as long as only computed blocks are shared. -/

namespace MiniVllm

open BlockManager EngineCore ModelInputBuilder

variable {ε : Type}

def sharedReadOnly (S : Setup ε) : CallCondition ε where
  batch qu bm prefill decode :=
    ∀ input ∈ (build S.config bm prefill decode).toOption,
      input.slotMapping.Nodup ∧
        ∀ write ∈ input.slotMapping.zip input.tokenPositions,
          ∀ t ∈ qu.liveSeqs, t.seqId ≠ write.2.1 → ∀ r < t.kvLen,
            (computeSlot S.config bm t r).toOption ≠ some write.1

/-- An admission shares only blocks that every holder has computed in full, and leaves a token to compute; no
call of `ensure_block` hits. -/
def settledHits (S : Setup ε) : CallCondition ε where
  admission qu bm sg := ∀ hit ∈ bm.matchedBlocks S.blockParams sg.promptTokenIds,
    (bm.probePrefixCache S.blockParams sg.promptTokenIds).cachedTokenCount < sg.promptTokenIds.length ∧
      ∀ u ∈ qu.liveSeqs, ∀ entry ∈ (bm.getBlockTable u.seqId).zipIdx, entry.1 = hit.1 →
        (entry.2 + 1) * S.config.blockSize ≤ u.kvLen
  ensure _ bm q position := bm.ensureHit S.blockParams q position = none

section Decidable

variable (S : Setup ε) (qu : RequestQueue) (bm : BlockManager ε)

instance (sg : SequenceGroup) : Decidable ((sharedReadOnly S).probe qu bm sg) :=
  inferInstanceAs (Decidable True)

instance (sg : SequenceGroup) : Decidable ((sharedReadOnly S).admission qu bm sg) :=
  inferInstanceAs (Decidable True)

instance (q : Sequence) (position : ℕ) : Decidable ((sharedReadOnly S).ensure qu bm q position) :=
  inferInstanceAs (Decidable True)

instance (prefill decode : List Sequence) : Decidable ((sharedReadOnly S).batch qu bm prefill decode) :=
  inferInstanceAs (Decidable (∀ input ∈ _, _ ∧ ∀ write ∈ _, ∀ t ∈ _, _ → ∀ r < _, _))

instance (sg : SequenceGroup) : Decidable ((settledHits S).probe qu bm sg) :=
  inferInstanceAs (Decidable True)

instance (sg : SequenceGroup) : Decidable ((settledHits S).admission qu bm sg) :=
  inferInstanceAs (Decidable (∀ hit ∈ _, _ ∧ ∀ u ∈ _, ∀ entry ∈ _, _ → _))

instance (q : Sequence) (position : ℕ) : Decidable ((settledHits S).ensure qu bm q position) :=
  inferInstanceAs (Decidable (_ = _))

instance (prefill decode : List Sequence) : Decidable ((settledHits S).batch qu bm prefill decode) :=
  inferInstanceAs (Decidable True)

end Decidable

def Settled (config : Config) (q : Sequence) (i : ℕ) (q' : Sequence) (j : ℕ) : Prop :=
  (q.seqId ≠ q'.seqId ∨ i ≠ j) → (i + 1) * config.blockSize ≤ q.kvLen ∧ (j + 1) * config.blockSize ≤ q'.kvLen

section Settled

variable {S : Setup ε}

lemma settledHits_rule : SharingRule S (settledHits S) (Settled S.config) where
  symm _ _ _ _ h hne := (h (hne.imp Ne.symm Ne.symm)).symm
  fresh _ _ hne := absurd rfl (hne.resolve_left (by simp))
  batch s prefill decode token q i q' j hw hr hq hq' h hne := by
    rw [afterBatch_seqId, afterBatch_seqId] at hne
    obtain ⟨h₁, h₂⟩ := h hne
    exact ⟨h₁.trans (kvLen_le_afterBatch hw.queue hr token hq), h₂.trans (kvLen_le_afterBatch hw.queue hr token hq')⟩
  hit s q position p q' j _ _ _ hc _ hhit _ := by
    have hn : s.blockManager.ensureHit S.blockParams q position = none := hc
    simp [hn] at hhit
  admission s sg i p hw _ _ hc hm := by
    have hmem : ∀ {i}, (s.blockManager.probePrefixCache S.blockParams
        sg.promptTokenIds).matchedPhysicalBlockIds[i]? = some p →
        (i + 1) * S.config.blockSize ≤ (Scheduler.admittedSeq S s.blockManager sg).kvLen := by
      intro i hi
      rw [WellFormed.admittedSeq_kvLen_of_lt (hc (p, i) (List.mem_zipIdx_iff_getElem?.mpr hi)).1]
      exact Nat.mul_le_mul_right _ (List.getElem?_eq_some_iff.mp hi).1
    refine ⟨fun q' j hh _ => ⟨hmem hm, ?_⟩, fun j hj _ => ⟨hmem hm, hmem hj⟩⟩
    exact (hc (p, i) (List.mem_zipIdx_iff_getElem?.mpr hm)).2 q' (hw.queue.mem_liveSeqs.mpr hh.live) (p, j)
      (List.mem_zipIdx_iff_getElem?.mpr hh.entry) rfl

variable {s : CoreState ε} {prefill decode : List Sequence}

lemma written_slot_private (hpairs : Pairs (Settled S.config) s)
    (hr : BatchReady S.config s.queue s.blockManager prefill decode) {call : Sequence × ℕ}
    (hm : call ∈ ensureCalls S.config prefill decode) {t : Sequence}
    (ht : s.queue.runningSeq t.seqId.request = some t) {r : ℕ}
    (hc : r / S.config.blockSize < (s.blockManager.getBlockTable t.seqId).length)
    (hslot : slotOf S.config s.blockManager call.1.seqId call.2 = slotOf S.config s.blockManager t.seqId r) :
    call.1.seqId = t.seqId ∧ call.2 = r := by
  obtain ⟨hlive, hlen, hcov⟩ := hr.call hm
  obtain ⟨hblock, hoff⟩ := (slotOf_eq_iff S.config s.blockManager _ _ _ _).mp hslot
  have h₁ := Holds.of_covered hlive hcov
  have h₂ := Holds.of_covered ht hc
  rw [← hblock] at h₂
  by_contra hne
  have hdiff : call.1.seqId ≠ t.seqId ∨ call.2 / S.config.blockSize ≠ r / S.config.blockSize := by
    refine or_iff_not_imp_left.mpr fun hid hdiv => hne ⟨not_not.mp hid, ?_⟩
    rw [← Nat.div_add_mod call.2 S.config.blockSize, ← Nat.div_add_mod r S.config.blockSize, hdiv, hoff]
  have hle := (hpairs _ _ _ _ _ h₁ h₂ hdiff).1
  have hlt := Nat.lt_div_mul_add (a := call.2) S.config.blockSize_pos
  rw [Nat.succ_mul] at hle
  omega

lemma sharedReadOnly_of_pairs (hw : WellFormed S s) (hpairs : Pairs (Settled S.config) s)
    (hr : BatchReady S.config s.queue s.blockManager prefill decode) :
    (sharedReadOnly S).batch s.queue s.blockManager prefill decode := by
  intro input hinput
  rw [build_eq hw.queue hr] at hinput
  obtain rfl : input = batchInput S.config s.blockManager prefill decode := (Option.some.inj hinput).symm
  refine ⟨?_, fun write hwrite t ht hne r hlt => ?_⟩
  · rw [batchInput_slotMapping]
    refine List.Nodup.map_on (fun call hm call' hm' hslot => ?_) (List.Nodup.of_map _ hr.nodup_calls)
    obtain ⟨hlive, -, -⟩ := hr.call hm
    obtain ⟨hlive', -, hcov'⟩ := hr.call hm'
    obtain ⟨hid, hpos⟩ := written_slot_private hpairs hr hm hlive' hcov' (by exact_mod_cast hslot)
    exact Prod.ext (hw.queue.runningSeq_ext hlive hlive' hid) hpos
  · rw [batchInput_slotMapping, batchInput_positions, List.zip_map'] at hwrite
    obtain ⟨call, hm, rfl⟩ := List.mem_map.mp hwrite
    have hlive := hw.queue.mem_liveSeqs.mp ht
    have hcov := (Nat.div_lt_iff_lt_mul S.config.blockSize_pos).mpr (hlt.trans_le (hw.covered _ t hlive))
    rw [computeSlot_eq S.config s.blockManager hcov]
    intro hslot
    have hs : (slotOf S.config s.blockManager t.seqId r : ℤ) =
        slotOf S.config s.blockManager call.1.seqId call.2 := Option.some.inj hslot
    exact hne (written_slot_private hpairs hr hm hlive hcov (by exact_mod_cast hs.symm)).1.symm

variable (S)

theorem shared_kv_read_only (ops : List LLMEngine.Op) (now : ℚ)
    (hrun : (settledHits S).Run S (ops ++ [.step now])) :
    (sharedReadOnly S).Step S (LLMEngine.run S ops) now := by
  obtain ⟨hops, hlast, -⟩ := (StepCondition.runFrom_append _ _ ops [.step now]).mp hrun
  have hreach := run_refines (c := settledHits S) (S := S) hops
  have hwf := wellFormed_run S ops
  refine CallCondition.Step.imp ?_ ?_ ?_ ?_ (step_refines hwf hlast).2
  · exact fun _ _ _ _ => trivial
  · exact fun _ _ _ _ => trivial
  · exact fun _ _ _ _ _ => trivial
  · rintro qu bm prefill decode ⟨-, hs, hr⟩
    have hall := (hreach.trans (beginStep_refines hwf now)).trans hs
    exact sharedReadOnly_of_pairs ((WellFormed.initial S).reaches hall) (settledHits_rule.reaches hall) hr

theorem shared_kv_read_only_of_computed_block :
    (sharedReadOnly oneTokenSetup).Step oneTokenSetup
      (LLMEngine.run oneTokenSetup
        [.addRequest ['a', 'b'] 3 0, .step 0, .addRequest ['a', 'c'] 3 0]) 0 :=
  shared_kv_read_only oneTokenSetup
    [.addRequest ['a', 'b'] 3 0, .step 0, .addRequest ['a', 'c'] 3 0] 0 (by decide +kernel)

theorem shared_block_written_twice : ¬ ∀ (config : Config) (blockHash : List ℕ → ℤ),
    Function.Injective blockHash → config.enablePrefixCaching = true → ∀ (ops : List LLMEngine.Op) (now : ℚ),
      (sharedReadOnly (fakeSetup config blockHash)).Step (fakeSetup config blockHash)
        (LLMEngine.run (fakeSetup config blockHash) ops) now := by
  intro h
  have hstep := h oneTokenBlocks codeHash codeHash_injective rfl
    [.addRequest ['a', 'b'] 3 0, .addRequest ['a', 'b'] 3 0] 0
  revert hstep
  decide +kernel

end Settled

end MiniVllm
