import MiniVllm.SharingProofs.SharedPrefixes

/-! An admission attaches what it probed, and the tables of the admitted sequences grow without a gap. -/

namespace MiniVllm

open BlockManager Scheduler

variable {ε : Type}

section Conditions

variable (P : BlockParams ε) (bm : BlockManager ε)

structure AttachesProbe (sid : SeqId) (prompt : List ℕ) (bm' : BlockManager ε) : Prop where
  table : bm'.getBlockTable sid = (bm.probePrefixCache P prompt).matchedPhysicalBlockIds
  others : ∀ s, s ≠ sid → bm'.getBlockTable s = bm.getBlockTable s
  refCount : ∀ p, bm'.allocator.getRefCount p =
    bm.allocator.getRefCount p + (bm.probePrefixCache P prompt).matchedPhysicalBlockIds.count p
  prefixCache : bm'.prefixCache = bm.prefixCache

def ownHash (q : Sequence) (position : ℕ) : ℤ :=
  P.blockHash (promptBlock P.blockSize q.promptTokenIds (position / P.blockSize))

structure EnsuresOwnBlock (q : Sequence) (position : ℕ) (bm' : BlockManager ε) : Prop where
  noGap : position / P.blockSize ≤ (bm.getBlockTable q.seqId).length
  others : ∀ s, s ≠ q.seqId → bm'.getBlockTable s = bm.getBlockTable s
  grown : bm'.getBlockTable q.seqId = bm.getBlockTable q.seqId ∨
    position / P.blockSize = (bm.getBlockTable q.seqId).length ∧
      ∃ p, bm'.getBlockTable q.seqId = bm.getBlockTable q.seqId ++ [p]
  looked : ∀ h, bm.promptHash P q position (position / P.blockSize) = some h →
    position < q.promptTokenIds.length ∧ h = ownHash P q position
  registered : bm'.prefixCache = bm.prefixCache ∨ position < q.promptTokenIds.length ∧
    ∃ p, bm'.getBlockTable q.seqId = bm.getBlockTable q.seqId ++ [p] ∧
      bm'.prefixCache = bm.prefixCache.insert (ownHash P q position) p

variable (S : Setup ε)

structure CursorWithin (sg : SequenceGroup) : Prop where
  lt : sg.promptTokenIds ≠ [] → (admittedSeq S bm sg).prefillCursor < sg.promptTokenIds.length
  covered : (admittedSeq S bm sg).prefillCursor ≤
    (bm.probePrefixCache S.blockParams sg.promptTokenIds).matchedPhysicalBlockIds.length * S.config.blockSize

def gapless : CallCondition ε where
  admission _ bm sg := CursorWithin bm S sg ∧
    ∃ bm', bm.allocateForSeq S.blockParams (sg.createSequence ⟨sg.requestId, 0⟩) = (.ok (), bm') ∧
      AttachesProbe S.blockParams bm ⟨sg.requestId, 0⟩ sg.promptTokenIds bm'
  ensure _ bm q position :=
    EnsuresOwnBlock S.blockParams bm q position (bm.ensureBlock S.blockParams q position).2

def cursorsBelow : CallCondition ε where
  admission _ bm sg := (admittedSeq S bm sg).prefillCursor < sg.promptTokenIds.length

instance (qu : RequestQueue) (bm : BlockManager ε) (sg : SequenceGroup) :
    Decidable ((cursorsBelow S).admission qu bm sg) :=
  inferInstanceAs (Decidable (_ < _))

instance (qu : RequestQueue) (bm : BlockManager ε) (sg : SequenceGroup) : Decidable ((cursorsBelow S).probe qu bm sg) :=
  inferInstanceAs (Decidable True)

instance (qu : RequestQueue) (bm : BlockManager ε) (q : Sequence) (position : ℕ) :
    Decidable ((cursorsBelow S).ensure qu bm q position) :=
  inferInstanceAs (Decidable True)

instance (qu : RequestQueue) (bm : BlockManager ε) (prefill decode : List Sequence) :
    Decidable ((cursorsBelow S).batch qu bm prefill decode) :=
  inferInstanceAs (Decidable True)

end Conditions

section Calls

variable {S : Setup ε} {s : CoreState ε} (hw : WellFormed S s)

lemma cursorWithin (bm : BlockManager ε) (sg : SequenceGroup) : CursorWithin bm S sg where
  lt hne := by
    have hle : (bm.probePrefixCache S.blockParams sg.promptTokenIds).cachedTokenCount ≤ sg.promptTokenIds.length := by
      rw [WellFormed.cachedTokenCount_eq]
      exact Nat.min_le_right _ _
    rcases WellFormed.admissionCursor_lt S.config _ _ hle with hlt | ⟨-, hzero⟩
    · exact hlt
    · exact absurd (List.length_eq_zero_iff.mp hzero) hne
  covered := WellFormed.admittedSeq_kvLen bm sg

include hw

lemma attachesProbe {sg : SequenceGroup} (hwait : s.queue.waiting.get? sg.requestId = some sg) :
    ∃ bm', s.blockManager.allocateForSeq S.blockParams (sg.createSequence ⟨sg.requestId, 0⟩) = (.ok (), bm') ∧
      AttachesProbe S.blockParams s.blockManager ⟨sg.requestId, 0⟩ sg.promptTokenIds bm' := by
  obtain ⟨bm', he, ha⟩ := hw.admits hwait
  refine ⟨bm', he, ?_, fun t ht => ?_, ha.refCount, ha.prefixCache⟩
  · rw [ha.table, if_pos rfl]
  · rw [ha.table, if_neg ht]

lemma promptHash_own {q : Sequence} (hlive : s.queue.runningSeq q.seqId.request = some q) {position : ℕ} {h : ℤ}
    (hh : s.blockManager.promptHash S.blockParams q position (position / S.config.blockSize) = some h) :
    position < q.promptTokenIds.length ∧ h = ownHash S.blockParams q position := by
  rw [promptHash] at hh
  split_ifs at hh with hp
  have hhashes := hw.hashes hp.2 _ q hlive
  have hblock := div_lt_numPromptBlocks S.config.blockSize_pos hp.1
  rw [hhashes, Option.bind_some, computeBlockHashes, List.getElem?_map, List.getElem?_range hblock,
    Option.map_some] at hh
  exact ⟨hp.1, (Option.some.inj hh).symm⟩

lemma ensuresOwnBlock {q : Sequence} {position : ℕ}
    (hr : EnsureReady S.config s.queue s.blockManager q position) : EnsuresOwnBlock S.blockParams s.blockManager q
      position (s.blockManager.ensureBlock S.blockParams q position).2 := by
  have hspec := hw.ensures hr
  have hown : ∀ h, s.blockManager.promptHash S.blockParams q position (position / S.config.blockSize) = some h →
      position < q.promptTokenIds.length ∧ h = ownHash S.blockParams q position := fun _ hh =>
    promptHash_own hw hr.live hh
  generalize s.blockManager.ensureBlock S.blockParams q position = r at hspec
  obtain ⟨r, bm'⟩ := r
  cases hspec with
  | covered => exact ⟨hr.next, fun _ _ => rfl, Or.inl rfl, hown, Or.inl rfl⟩
  | outOfMemory => exact ⟨hr.next, fun _ _ => rfl, Or.inl rfl, hown, Or.inl rfl⟩
  | hit hash p _ hlen hhash hcached hs =>
    refine ⟨hr.next, fun t ht => ?_, Or.inr ⟨hlen, p, ?_⟩, hown, Or.inl hs.prefixCache⟩
    · simp only [hs.table, if_neg ht]
    · simp only [hs.table, if_true]
  | miss p _ hlen hmiss ht =>
    have htable : bm'.getBlockTable q.seqId = s.blockManager.getBlockTable q.seqId ++ [p] := by
      rw [ht.table, if_pos rfl]
    refine ⟨hr.next, fun t hne => ?_, Or.inr ⟨hlen, p, htable⟩, hown, ?_⟩
    · rw [ht.table, if_neg hne]
    · cases hhash : s.blockManager.promptHash S.blockParams q position (position / S.blockParams.blockSize) with
      | none =>
        left
        rw [ht.prefixCache]
        simp only [registerBlock, hhash]
      | some h =>
        obtain ⟨hlt, hh⟩ := hown h hhash
        right
        refine ⟨hlt, p, htable, ?_⟩
        rw [ht.prefixCache, ← hh]
        simp only [registerBlock, hhash]

end Calls

variable (S : Setup ε)

theorem probe_attach_gapless (ops : List LLMEngine.Op) (now : ℚ) :
    (gapless S).Step S (LLMEngine.run S ops) now := by
  have hwf := wellFormed_run S ops
  have hvisit := (step_refines hwf (c := {}) (step_true _ now)).2
  have hwb := hwf.reaches (beginStep_refines (c := {}) hwf now)
  refine CallCondition.Step.imp ?_ ?_ ?_ ?_ hvisit
  · exact fun _ _ _ _ => trivial
  · rintro qu bm sg ⟨-, hs, hwait⟩
    exact ⟨cursorWithin bm sg, attachesProbe (hwb.reaches hs) hwait⟩
  · rintro qu bm q position ⟨-, hs, hready⟩
    exact ensuresOwnBlock (hwb.reaches hs) hready
  · exact fun _ _ _ _ _ => trivial

theorem empty_prompt_cursor : ¬ ∀ (config : Config) (blockHash : List ℕ → ℤ), Function.Injective blockHash →
    config.enablePrefixCaching = true → ∀ (ops : List LLMEngine.Op) (now : ℚ),
      (cursorsBelow (fakeSetup config blockHash)).Step (fakeSetup config blockHash)
        (LLMEngine.run (fakeSetup config blockHash) ops) now := by
  intro h
  have hstep := h .default codeHash codeHash_injective rfl [.addRequest [] 1 0] 0
  revert hstep
  decide +kernel

end MiniVllm
