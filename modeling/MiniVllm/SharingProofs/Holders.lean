import MiniVllm.SharingProofs.Hits

/-! Which live sequence holds which block where, and relations between the holders of one block. -/

namespace MiniVllm

open BlockManager EngineCore

lemma getElem?_concat_cases {α : Type} {xs : List α} {x y : α} {i : ℕ} (h : (xs ++ [x])[i]? = some y) :
    xs[i]? = some y ∨ i = xs.length ∧ x = y := by
  rcases Nat.lt_or_ge i xs.length with hlt | hge
  · left
    rwa [List.getElem?_append_left hlt] at h
  · right
    rw [List.getElem?_append_right hge] at h
    obtain ⟨hz, hv⟩ := List.getElem?_eq_some_iff.mp h
    simp only [List.length_singleton] at hz
    exact ⟨by omega, by simpa using hv⟩

variable {ε : Type} {S : Setup ε} {c : CallCondition ε}

structure Holds (s : CoreState ε) (q : Sequence) (i p : ℕ) : Prop where
  live : s.queue.runningSeq q.seqId.request = some q
  entry : (s.blockManager.getBlockTable q.seqId)[i]? = some p

namespace Holds

variable {s s' : CoreState ε} {q : Sequence} {i p : ℕ}

lemma mem (h : Holds s q i p) : p ∈ s.blockManager.getBlockTable q.seqId := List.mem_of_getElem? h.entry

lemma of_append {bm : BlockManager ε} {sid : SeqId} {r : ℕ}
    (ht : ∀ t, bm.getBlockTable t = if t = sid then s.blockManager.getBlockTable sid ++ [r]
      else s.blockManager.getBlockTable t)
    (h : Holds ⟨s.queue, bm, s.seqGroupCount⟩ q i p) :
    Holds s q i p ∨ (q.seqId = sid ∧ i = (s.blockManager.getBlockTable sid).length ∧ p = r) := by
  obtain ⟨hl, he⟩ := h
  simp only [ht] at he
  split_ifs at he with hid
  · rcases getElem?_concat_cases he with hold | ⟨hi, hr⟩
    · exact Or.inl ⟨hl, by rwa [hid]⟩
    · exact Or.inr ⟨hid, hi, hr.symm⟩
  · exact Or.inl ⟨hl, he⟩

lemma of_admission (hw : WellFormed S s) {sg : SequenceGroup} {bm : BlockManager ε}
    (hwait : s.queue.waiting.get? sg.requestId = some sg)
    (ha : Admits S.blockParams ⟨sg.requestId, 0⟩ sg.promptTokenIds s.blockManager bm)
    (h : Holds ⟨s.queue.markRunning
      { sg with seqs := sg.seqs ++ [Scheduler.admittedSeq S s.blockManager sg] }, bm, s.seqGroupCount⟩ q i p) :
    (q.seqId.request ≠ sg.requestId ∧ Holds s q i p) ∨ (q = Scheduler.admittedSeq S s.blockManager sg ∧
      (s.blockManager.probePrefixCache S.blockParams sg.promptTokenIds).matchedPhysicalBlockIds[i]? = some p) := by
  obtain ⟨hl, he⟩ := h
  simp only [hw.runningSeq_admission hwait] at hl
  simp only [ha.table] at he
  split_ifs at hl with hr
  · have hq := (Option.some.inj hl).symm
    have hid : q.seqId = ⟨sg.requestId, 0⟩ := by rw [hq]; rfl
    rw [if_pos hid] at he
    exact Or.inr ⟨hq, he⟩
  · have hid : q.seqId ≠ ⟨sg.requestId, 0⟩ := fun h => hr (congrArg SeqId.request h)
    rw [if_neg hid] at he
    exact Or.inl ⟨hr, hl, he⟩

lemma of_retire {sg : SequenceGroup} {q₀ : Sequence} {bm : BlockManager ε}
    (hf : Releases S.blockParams q₀.seqId s.blockManager bm)
    (h : Holds ⟨s.queue.markFinished sg, bm, s.seqGroupCount⟩ q i p) :
    q.seqId ≠ q₀.seqId ∧ Holds s q i p := by
  obtain ⟨hl, he⟩ := h
  rw [RequestQueue.runningSeq_markFinished] at hl
  split_ifs at hl
  simp only [hf.table] at he
  split_ifs at he with hid
  · simp at he
  · exact ⟨hid, hl, he⟩

lemma of_batch {prefill decode : List SeqId} {token : SeqId → ℕ} {queue : RequestQueue}
    {x : ε} {events : List CacheEvent}
    (hrun : ∀ rid, queue.running.get? rid = (s.queue.running.get? rid).map (SequenceGroup.mapSeqs
      (afterBatch S.config prefill decode token)))
    (h : Holds ⟨queue, (s.blockManager.withListener x).record events, s.seqGroupCount⟩ q i p) :
    ∃ q₀, q = afterBatch S.config prefill decode token q₀ ∧ Holds s q₀ i p := by
  obtain ⟨hl, he⟩ := h
  rw [RequestQueue.runningSeq_map hrun] at hl
  obtain ⟨q₀, hq₀, rfl⟩ := Option.map_eq_some_iff.mp hl
  rw [afterBatch_seqId] at hq₀ he
  exact ⟨q₀, rfl, hq₀, he⟩

lemma of_covered (hq : s.queue.runningSeq q.seqId.request = some q) {position blockSize : ℕ}
    (hc : position / blockSize < (s.blockManager.getBlockTable q.seqId).length) :
    Holds s q (position / blockSize) ((s.blockManager.getBlockTable q.seqId).getD (position / blockSize) 0) :=
  ⟨hq, by rw [List.getD_eq_getElem?_getD, List.getElem?_eq_getElem hc, Option.getD_some]⟩

end Holds

def Pairs (R : Sequence → ℕ → Sequence → ℕ → Prop) (s : CoreState ε) : Prop :=
  ∀ q i q' j p, Holds s q i p → Holds s q' j p → R q i q' j

structure SharingRule (S : Setup ε) (c : CallCondition ε) (R : Sequence → ℕ → Sequence → ℕ → Prop) : Prop where
  symm : ∀ q i q' j, R q i q' j → R q' j q i
  fresh : ∀ q i, R q i q i
  batch : ∀ s prefill decode token q i q' j, WellFormed S s →
    BatchReady S.config s.queue s.blockManager prefill decode →
    s.queue.runningSeq q.seqId.request = some q → s.queue.runningSeq q'.seqId.request = some q' →
    R q i q' j →
    R (afterBatch S.config (prefill.map (·.seqId)) (decode.map (·.seqId)) token q) i
      (afterBatch S.config (prefill.map (·.seqId)) (decode.map (·.seqId)) token q') j
  hit : ∀ s q position p q' j, WellFormed S s → Pairs R s →
    EnsureReady S.config s.queue s.blockManager q position → c.ensure s.queue s.blockManager q position →
    position / S.config.blockSize = (s.blockManager.getBlockTable q.seqId).length →
    s.blockManager.ensureHit S.blockParams q position = some p →
    Holds s q' j p → R q (position / S.config.blockSize) q' j
  admission : ∀ s sg i p, WellFormed S s → Pairs R s → s.queue.waiting.get? sg.requestId = some sg →
    c.admission s.queue s.blockManager sg →
    (s.blockManager.probePrefixCache S.blockParams sg.promptTokenIds).matchedPhysicalBlockIds[i]? = some p →
    (∀ q' j, Holds s q' j p → R (Scheduler.admittedSeq S s.blockManager sg) i q' j) ∧
      ∀ j, (s.blockManager.probePrefixCache S.blockParams sg.promptTokenIds).matchedPhysicalBlockIds[j]? =
        some p → R (Scheduler.admittedSeq S s.blockManager sg) i (Scheduler.admittedSeq S s.blockManager sg) j

lemma ensureHit_of_cached {P : BlockParams ε} {bm : BlockManager ε} {q : Sequence} {position p : ℕ} {hash : ℤ}
    (hlen : position / P.blockSize = (bm.getBlockTable q.seqId).length)
    (hhash : bm.promptHash P q position (position / P.blockSize) = some hash)
    (hc : bm.cachedBlock hash = some p) : bm.ensureHit P q position = some p := by
  simp [ensureHit, hlen.ge, hhash, hc]

section Rule

variable {R : Sequence → ℕ → Sequence → ℕ → Prop} (rule : SharingRule S c R)

include rule

lemma SharingRule.extend {s : CoreState ε} (h : Pairs R s) {bm : BlockManager ε} {q : Sequence} {p : ℕ}
    (hq : s.queue.runningSeq q.seqId.request = some q) (hw : WellFormed S s)
    (ht : ∀ t, bm.getBlockTable t = if t = q.seqId then s.blockManager.getBlockTable q.seqId ++ [p]
      else s.blockManager.getBlockTable t)
    (hnew : ∀ q' j, Holds s q' j p → R q (s.blockManager.getBlockTable q.seqId).length q' j) :
    Pairs R ⟨s.queue, bm, s.seqGroupCount⟩ := by
  have hsame : ∀ q₁ i₁, Holds ⟨s.queue, bm, s.seqGroupCount⟩ q₁ i₁ p → ¬ Holds s q₁ i₁ p →
      q₁ = q ∧ i₁ = (s.blockManager.getBlockTable q.seqId).length := by
    intro q₁ i₁ h₁ hn
    obtain hold | ⟨hid, hi, -⟩ := h₁.of_append ht
    · exact absurd hold hn
    · exact ⟨hw.queue.runningSeq_ext h₁.live hq hid, hi⟩
  intro q₁ i₁ q₂ i₂ r h₁ h₂
  by_cases hr : r = p
  · subst hr
    by_cases o₁ : Holds s q₁ i₁ r
    · by_cases o₂ : Holds s q₂ i₂ r
      · exact h q₁ i₁ q₂ i₂ r o₁ o₂
      · obtain ⟨rfl, rfl⟩ := hsame q₂ i₂ h₂ o₂
        exact rule.symm _ _ _ _ (hnew q₁ i₁ o₁)
    · obtain ⟨rfl, rfl⟩ := hsame q₁ i₁ h₁ o₁
      by_cases o₂ : Holds s q₂ i₂ r
      · exact hnew q₂ i₂ o₂
      · obtain ⟨rfl, rfl⟩ := hsame q₂ i₂ h₂ o₂
        exact rule.fresh _ _
  · exact h q₁ i₁ q₂ i₂ r ((h₁.of_append ht).resolve_right fun hn => hr hn.2.2)
      ((h₂.of_append ht).resolve_right fun hn => hr hn.2.2)

theorem SharingRule.step {s s' : CoreState ε} (hw : WellFormed S s) (h : Pairs R s)
    (ht : Transition S c s s') : Pairs R s' := by
  cases hw.effect ht with
  | idle => exact h
  | cleanup => exact fun q i q' j p h₁ h₂ => h q i q' j p ⟨h₁.live, h₁.entry⟩ ⟨h₂.live, h₂.entry⟩
  | failed => exact fun q i q' j p h₁ h₂ => h q i q' j p ⟨h₁.live, h₁.entry⟩ ⟨h₂.live, h₂.entry⟩
  | requeue queue n hrun =>
    have hsame : ∀ rid, queue.runningSeq rid = s.queue.runningSeq rid := by
      intro rid
      simp only [RequestQueue.runningSeq, hrun]
    exact fun q i q' j p h₁ h₂ => h q i q' j p ⟨hsame _ ▸ h₁.live, h₁.entry⟩ ⟨hsame _ ▸ h₂.live, h₂.entry⟩
  | retire sg q₀ status bm hid hseqs hlive hstatus hf =>
    exact fun q i q' j p h₁ h₂ => h q i q' j p (h₁.of_retire hf).2 (h₂.of_retire hf).2
  | admission sg bm hwait hfresh hc ha =>
    intro q i q' j p h₁ h₂
    rcases h₁.of_admission hw hwait ha with ⟨-, o₁⟩ | ⟨rfl, m₁⟩
    · rcases h₂.of_admission hw hwait ha with ⟨-, o₂⟩ | ⟨rfl, m₂⟩
      · exact h q i q' j p o₁ o₂
      · exact rule.symm _ _ _ _ ((rule.admission s sg j p hw h hwait hc m₂).1 q i o₁)
    · rcases h₂.of_admission hw hwait ha with ⟨-, o₂⟩ | ⟨rfl, m₂⟩
      · exact (rule.admission s sg i p hw h hwait hc m₁).1 q' j o₂
      · exact (rule.admission s sg i p hw h hwait hc m₁).2 j m₂
  | hit q position hash p bm hready hc hlen hhash hcached hs =>
    refine rule.extend h hready.live hw hs.table fun q' j hh => ?_
    rw [← hlen]
    exact rule.hit s q position p q' j hw h hready hc hlen (ensureHit_of_cached hlen hhash hcached) hh
  | miss q position p bm hready hc hlen hmiss htk =>
    refine rule.extend h hready.live hw htk.table fun q' j hh => ?_
    exact absurd hh.mem (hw.balanced.not_mem_of_isFree htk.wasFree q'.seqId)
  | done prefill decode output x queue hready hc hexec hwt hfn hrj hrun =>
    intro q i q' j p h₁ h₂
    obtain ⟨q₁, rfl, o₁⟩ := h₁.of_batch hrun
    obtain ⟨q₂, rfl, o₂⟩ := h₂.of_batch hrun
    exact rule.batch s prefill decode _ q₁ i q₂ j hw hready o₁.live o₂.live (h q₁ i q₂ j p o₁ o₂)

theorem SharingRule.reaches {s : CoreState ε} (h : Reaches S c (LLMEngine.initial S).core s) : Pairs R s :=
  run_invariant (I := Pairs R) (fun q i q' j p h₁ _ => by cases h₁.live) (fun _ _ hw hi ht => rule.step hw hi ht) h

end Rule

end MiniVllm
