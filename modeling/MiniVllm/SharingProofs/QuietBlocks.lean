import MiniVllm.EngineProofs.Writes
import MiniVllm.SharingProofs.Holders

/-! Blocks that decode steps read: no other sequence writes them as long as no hit finds one. -/

namespace MiniVllm

open BlockManager EngineCore

variable {ε : Type}

/-- Decode steps of `q` read block `i`: it holds the last prompt token or later positions. -/
def ReadsBlock (config : Config) (q : Sequence) (i : ℕ) : Prop :=
  q.promptTokenIds.length ≤ (i + 1) * config.blockSize

/-- No hit finds the block of a last prompt token, or a later one: neither a block that the sequence will read nor,
in `ensure_block`, one that a holder of the block will read. -/
def quietHits (S : Setup ε) : CallCondition ε where
  admission _ bm sg := ∀ hit ∈ bm.matchedBlocks S.blockParams sg.promptTokenIds,
    (hit.2 + 1) * S.config.blockSize < sg.promptTokenIds.length
  ensure qu bm q position := ∀ p ∈ bm.ensureHit S.blockParams q position,
    (position / S.config.blockSize + 1) * S.config.blockSize < q.promptTokenIds.length ∧
      ∀ u ∈ qu.liveSeqs, ∀ entry ∈ (bm.getBlockTable u.seqId).zipIdx, entry.1 = p →
        (entry.2 + 1) * S.config.blockSize < u.promptTokenIds.length

section Decidable

variable (S : Setup ε) (qu : RequestQueue) (bm : BlockManager ε)

instance (sg : SequenceGroup) : Decidable ((quietHits S).probe qu bm sg) := inferInstanceAs (Decidable True)

instance (sg : SequenceGroup) : Decidable ((quietHits S).admission qu bm sg) :=
  inferInstanceAs (Decidable (∀ hit ∈ _, _))

instance (q : Sequence) (position : ℕ) : Decidable ((quietHits S).ensure qu bm q position) :=
  inferInstanceAs (Decidable (∀ p ∈ _, _ ∧ ∀ u ∈ _, ∀ entry ∈ _, _ → _))

instance (prefill decode : List Sequence) : Decidable ((quietHits S).batch qu bm prefill decode) :=
  inferInstanceAs (Decidable True)

end Decidable

def Quiet (config : Config) (q : Sequence) (i : ℕ) (q' : Sequence) (j : ℕ) : Prop :=
  (q.seqId ≠ q'.seqId ∨ i ≠ j) → ¬ (ReadsBlock config q i ∧ ReadsBlock config q' j) ∧
    (ReadsBlock config q i → (j + 1) * config.blockSize ≤ q'.kvLen) ∧
      (ReadsBlock config q' j → (i + 1) * config.blockSize ≤ q.kvLen)

section Quiet

variable {S : Setup ε}

lemma readsBlock_congr {q q' : Sequence} (h : q'.promptTokenIds = q.promptTokenIds) (i : ℕ) :
    ReadsBlock S.config q' i ↔ ReadsBlock S.config q i := by
  rw [ReadsBlock, ReadsBlock, h]

lemma matched_computed {s : CoreState ε} {sg : SequenceGroup} (hc : (quietHits S).admission s.queue s.blockManager sg)
    {i p : ℕ} (hm : (s.blockManager.probePrefixCache S.blockParams
      sg.promptTokenIds).matchedPhysicalBlockIds[i]? = some p) :
    (i + 1) * S.config.blockSize < sg.promptTokenIds.length ∧
      (i + 1) * S.config.blockSize ≤ (Scheduler.admittedSeq S s.blockManager sg).kvLen := by
  set matched := (s.blockManager.probePrefixCache S.blockParams sg.promptTokenIds).matchedPhysicalBlockIds
    with hmatched
  have hlast : ∀ {i p}, matched[i]? = some p → (i + 1) * S.config.blockSize < sg.promptTokenIds.length :=
    fun {i p} h => hc (p, i) (List.mem_zipIdx_iff_getElem?.mpr h)
  refine ⟨hlast hm, ?_⟩
  have hlen : i < matched.length := (List.getElem?_eq_some_iff.mp hm).1
  have hfull := hlast (List.getElem?_eq_getElem (l := matched) (i := matched.length - 1) (by omega))
  rw [Nat.sub_add_cancel (by omega)] at hfull
  have hcached := WellFormed.cachedTokenCount_eq s.blockManager S.blockParams sg.promptTokenIds
  rw [← hmatched, show S.blockParams.blockSize = S.config.blockSize from rfl, Nat.min_eq_left hfull.le] at hcached
  rw [WellFormed.admittedSeq_kvLen_of_lt (by rw [hcached]; exact hfull), ← hmatched]
  exact Nat.mul_le_mul_right _ hlen

lemma quietHits_rule : SharingRule S (quietHits S) (Quiet S.config) where
  symm _ _ _ _ h hne := by
    obtain ⟨h₁, h₂, h₃⟩ := h (hne.imp Ne.symm Ne.symm)
    exact ⟨fun hr => h₁ hr.symm, h₃, h₂⟩
  fresh _ _ hne := absurd rfl (hne.resolve_left (by simp))
  batch s prefill decode token q i q' j hw hr hq hq' h hne := by
    rw [afterBatch_seqId, afterBatch_seqId] at hne
    obtain ⟨h₁, h₂, h₃⟩ := h hne
    rw [readsBlock_congr (afterBatch_prompt token _ _ _ q), readsBlock_congr (afterBatch_prompt token _ _ _ q')]
    exact ⟨h₁, fun h => (h₂ h).trans (kvLen_le_afterBatch hw.queue hr token hq'),
      fun h => (h₃ h).trans (kvLen_le_afterBatch hw.queue hr token hq)⟩
  hit s q position p q' j hw _ _ hc _ hhit hh := by
    intro _
    obtain ⟨hlast, hholders⟩ := hc p hhit
    have hq : ¬ ReadsBlock S.config q (position / S.config.blockSize) := Nat.not_le.mpr hlast
    have hq' : ¬ ReadsBlock S.config q' j := Nat.not_le.mpr (hholders q' (hw.queue.mem_liveSeqs.mpr hh.live) (p, j)
      (List.mem_zipIdx_iff_getElem?.mpr hh.entry) rfl)
    exact ⟨fun h => hq h.1, fun h => absurd h hq, fun h => absurd h hq'⟩
  admission s sg i p hw _ _ hc hm := by
    have hnot : ∀ {i}, (s.blockManager.probePrefixCache S.blockParams
        sg.promptTokenIds).matchedPhysicalBlockIds[i]? = some p →
        ¬ ReadsBlock S.config (Scheduler.admittedSeq S s.blockManager sg) i :=
      fun hi => Nat.not_le.mpr (matched_computed hc hi).1
    exact ⟨fun q' j hh _ => ⟨fun h => hnot hm h.1, fun h => absurd h (hnot hm), fun _ => (matched_computed hc hm).2⟩,
      fun j hj _ => ⟨fun h => hnot hm h.1, fun h => absurd h (hnot hm), fun h => absurd h (hnot hj)⟩⟩

variable {s : CoreState ε} {prefill decode : List Sequence}

lemma written_elsewhere (hpairs : Pairs (Quiet S.config) s)
    (hr : BatchReady S.config s.queue s.blockManager prefill decode) (call : Sequence × ℕ) {q : Sequence} {i p : ℕ}
    (hq : Holds s q i p) (hreads : ReadsBlock S.config q i)
    (hm : call ∈ ensureCalls S.config prefill decode)
    (hne : q.seqId ≠ call.1.seqId ∨ i ≠ call.2 / S.config.blockSize) :
    (s.blockManager.getBlockTable call.1.seqId).getD (call.2 / S.config.blockSize) 0 ≠ p := by
  rintro rfl
  obtain ⟨hlive, hlen, hcov⟩ := hr.call hm
  have hle := (hpairs _ _ _ _ _ hq (Holds.of_covered hlive hcov) hne).2.1 hreads
  have hlt := Nat.lt_div_mul_add (a := call.2) S.config.blockSize_pos
  rw [Nat.succ_mul] at hle
  omega

end Quiet

end MiniVllm
