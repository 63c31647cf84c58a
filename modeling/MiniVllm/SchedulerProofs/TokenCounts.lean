import MiniVllm.EngineProofs.Builds
import MiniVllm.SchedulerProofs.Partition

/-! The prompt tokens that a schedule charges for, against those that `build` puts into the batch. -/

namespace MiniVllm

open EngineCore Scheduler Scheduler.BudgetLoop ModelInputBuilder

variable {ε : Type} {S : Setup ε}

lemma sum_min_le {α : Type} (f : α → ℕ) (cap : ℕ) (xs : List α) :
    (xs.map (fun x => min (f x) cap)).sum ≤ (xs.map f).sum := by
  apply List.sum_le_sum
  exact fun x _ => Nat.min_le_left _ _

lemma sum_min_eq_iff {α : Type} (f : α → ℕ) (cap : ℕ) (xs : List α) :
    (xs.map f).sum = (xs.map (fun x => min (f x) cap)).sum ↔ ∀ x ∈ xs, f x ≤ cap := by
  induction xs with
  | nil => simp
  | cons x rest ih =>
    have hrest := sum_min_le f cap rest
    rw [List.forall_mem_cons, ← ih]
    simp only [List.map_cons, List.sum_cons]
    omega

section Infos

variable (counter : ℕ)

lemma prefillInfos_tokens (prefillMeta : List PrefillMeta) :
    (((prefillInfos counter prefillMeta).filter (·.phase = .prefill)).map (·.queryLen)).sum =
      (prefillMeta.map (·.queryLen)).sum := by
  induction prefillMeta generalizing counter with
  | nil => rfl
  | cons m rest ih => simp [prefillInfos, ih]

lemma prefillInfos_decodes (prefillMeta : List PrefillMeta) :
    (prefillInfos counter prefillMeta).filter (·.phase = .decode) = [] := by
  apply List.filter_eq_nil_iff.mpr
  intro info hi
  simp [(mem_prefillInfos hi).1]

lemma decodeInfos_prefills (decodeMeta : List DecodeMeta) :
    (decodeInfos counter decodeMeta).filter (·.phase = .prefill) = [] := by
  apply List.filter_eq_nil_iff.mpr
  intro info hi
  simp [(mem_decodeInfos hi).1]

lemma decodeInfos_length (decodeMeta : List DecodeMeta) :
    ((decodeInfos counter decodeMeta).filter (·.phase = .decode)).length = decodeMeta.length := by
  induction decodeMeta generalizing counter with
  | nil => rfl
  | cons m rest ih => simp [decodeInfos, ih]

end Infos

def ModelInput.prefillTokens (input : ModelInput) : ℕ :=
  ((input.sequenceInfo.filter (·.phase = .prefill)).map (·.queryLen)).sum

def ModelInput.decodeEntries (input : ModelInput) : ℕ := (input.sequenceInfo.filter (·.phase = .decode)).length

lemma batchInput_prefillTokens (bm : BlockManager ε) (prefill decode : List Sequence) :
    (batchInput S.config bm prefill decode).prefillTokens = (prefill.map (nextChunk S.config)).sum := by
  have hinfos : (batchInput S.config bm prefill decode).sequenceInfo = sequenceInfos
      (collectPrefillMetadata S.config prefill) (decode.map decodeMetaOf) := rfl
  rw [ModelInput.prefillTokens, hinfos, sequenceInfos, List.filter_append, decodeInfos_prefills, List.append_nil,
    prefillInfos_tokens, collectPrefillMetadata, List.map_map]
  congr 1
  apply List.map_congr_left
  intro q _
  exact Nat.min_comm _ _

lemma batchInput_decodeEntries (bm : BlockManager ε) (prefill decode : List Sequence) :
    (batchInput S.config bm prefill decode).decodeEntries = decode.length := by
  have hinfos : (batchInput S.config bm prefill decode).sequenceInfo = sequenceInfos
      (collectPrefillMetadata S.config prefill) (decode.map decodeMetaOf) := rfl
  rw [ModelInput.decodeEntries, hinfos, sequenceInfos, List.filter_append, prefillInfos_decodes, List.nil_append,
    decodeInfos_length, List.length_map]

def chunksOf (config : Config) (qu : RequestQueue) (rids : List RequestId) : ℕ :=
  ((rids.filterMap qu.runningSeq).map (nextChunk config)).sum

lemma chunksOf_append (config : Config) (qu : RequestQueue) (xs ys : List RequestId) :
    chunksOf config qu (xs ++ ys) = chunksOf config qu xs + chunksOf config qu ys := by
  simp [chunksOf]

lemma continuePrefill_charges {l : BudgetLoop ε} {item : SequenceGroup × Sequence}
    (hrun : l.queue.runningSeq item.1.requestId = some item.2)
    (h : l.numPrefillTokens = chunksOf S.config l.queue l.result.scheduledPrefillGroups) :
    (continuePrefill S l item).numPrefillTokens = chunksOf S.config (continuePrefill S l item).queue
      (continuePrefill S l item).result.scheduledPrefillGroups := by
  simp only [continuePrefill]
  split_ifs
  · exact h
  · exact h
  · simp only [chunksOf_append, h]
    simp [chunksOf, hrun, nextChunk]

lemma continuePrefills_charges {l : BudgetLoop ε} (items : List (SequenceGroup × Sequence))
    (hrun : ∀ item ∈ items, l.queue.runningSeq item.1.requestId = some item.2)
    (h : l.numPrefillTokens = chunksOf S.config l.queue l.result.scheduledPrefillGroups) :
    (items.foldl (continuePrefill S) l).numPrefillTokens = chunksOf S.config (items.foldl (continuePrefill S) l).queue
      (items.foldl (continuePrefill S) l).result.scheduledPrefillGroups := by
  induction items generalizing l with
  | nil => exact h
  | cons item rest ih =>
    rw [List.foldl_cons]
    apply ih
    · intro x hx
      have hqueue : (continuePrefill S l item).queue = l.queue := (continuePrefill_frame [item] l).1
      rw [hqueue]
      exact hrun x (List.mem_cons_of_mem item hx)
    · exact continuePrefill_charges (hrun item (by simp)) h

lemma Visits.admitted {l l' : BudgetLoop ε} {groups : List SequenceGroup} (h : Visits S l groups l') :
    ∃ admitted : List SequenceGroup, (∀ sg ∈ admitted, sg ∈ groups) ∧
      l'.result.scheduledPrefillGroups = l.result.scheduledPrefillGroups ++ admitted.map (·.requestId) ∧
      l'.numPrefillTokens = l.numPrefillTokens + (admitted.map (MiniVllm.admissionCost S l.blockManager)).sum ∧
      ∀ sg ∈ admitted, l'.queue.running.get? sg.requestId = some (admittedGroup S l.blockManager sg) := by
  induction h with
  | nil => exact ⟨[], by simp, by simp, by simp, by simp⟩
  | @cons l l₁ l₂ sg rest hv hrest ih =>
    obtain ⟨admitted, hsub, hlist, hcharge, hrun⟩ := ih
    have hcost := funext (Visits.cons hv (.nil _)).admissionCost
    have hgroup := funext (admittedGroup_congr (S := S) hv.probe)
    rw [hcost] at hcharge
    rw [hgroup] at hrun
    have hsub' : ∀ g ∈ admitted, g ∈ sg :: rest := fun g hg => List.mem_cons_of_mem sg (hsub g hg)
    cases hv with
    | skip => exact ⟨admitted, hsub', hlist, hcharge, hrun⟩
    | reject => exact ⟨admitted, hsub', hlist, hcharge, hrun⟩
    | admission bm result hd hwait hfresh ha hresult =>
      refine ⟨sg :: admitted, ?_, ?_, ?_, ?_⟩
      · exact List.forall_mem_cons.mpr ⟨by simp, hsub'⟩
      · rw [hlist, hresult.1, List.append_assoc]
        rfl
      · rw [hcharge, List.map_cons, List.sum_cons, Nat.add_assoc]
      · intro g hg
        rcases List.mem_cons.mp hg with rfl | hg
        · apply hrest.frame.2.2.2.1
          exact Dict.get?_set_self _ _ _
        · exact hrun g hg

def ChunksFit (S : Setup ε) (s₀ : CoreState ε) : Prop :=
  AdmissionOpen S s₀.queue → ∀ sg ∈ s₀.queue.waiting.values,
    admissionOf S (dueFreed S s₀) (turnBudgets S s₀ sg) sg = .admission →
      admissionCost S (dueFreed S s₀) sg ≤ S.config.maxPrefillChunkSize

section Charges

variable {s₀ : CoreState ε} (h₀ : WellFormed S s₀)

include h₀

variable {l l' : BudgetLoop ε} {visited : List SequenceGroup} (h : Schedules S s₀ l l' visited)

include h

lemma Schedules.start_charges :
    l.numPrefillTokens = chunksOf S.config l.queue l.result.scheduledPrefillGroups := by
  obtain ⟨decode, prefill, hl, hitems, -⟩ := h.phases h₀
  rw [hl]
  apply continuePrefills_charges
  · intro item hi
    obtain ⟨hkeep, hseqs⟩ := hitems item hi
    apply (finishLoop_wellFormed h₀).queue.runningSeq_eq_some.mpr
    exact ⟨item.1, ((finishLoop_finishing (c := {}) h₀).keep item.1 hkeep).1, hseqs⟩
  · rfl

lemma Schedules.admitted : ∃ admitted : List SequenceGroup,
    (∀ sg, sg ∈ admitted ↔ sg ∈ s₀.queue.waiting.values ∧ AdmitsGroup S s₀ sg) ∧
    l'.numPrefillTokens = chunksOf S.config l.queue l.result.scheduledPrefillGroups +
      (admitted.map (admissionCost S (dueFreed S s₀))).sum ∧
    chunksOf S.config l'.queue l'.result.scheduledPrefillGroups =
      chunksOf S.config l.queue l.result.scheduledPrefillGroups +
        (admitted.map (fun sg => min (admissionCost S (dueFreed S s₀) sg) S.config.maxPrefillChunkSize)).sum := by
  obtain ⟨admitted, hsub, hlist, hcharge, hrun⟩ := h.visits.admitted
  rw [h.blockManager_eq h₀] at hcharge hrun
  have hpending : ∀ sg ∈ admitted, s₀.queue.waiting.get? sg.requestId = some sg := by
    intro sg hsg
    rw [← h.waiting_eq h₀]
    exact h.admitting.pending sg (hsub sg hsg)
  refine ⟨admitted, fun sg => ?_, ?_, ?_⟩
  · rw [AdmitsGroup, h.result]
    constructor
    · intro hsg
      refine ⟨(s₀.queue.waiting.mem_values sg).mpr ⟨_, hpending sg hsg⟩, ?_⟩
      rw [hrun sg hsg]
      simp
    · rintro ⟨hsg, hadmits⟩
      obtain ⟨rid, hwait⟩ := (s₀.queue.waiting.mem_values sg).mp hsg
      obtain rfl := (h₀.queue.waiting rid sg hwait).1
      have hnone := (h₀.queue.only_waiting hwait).1
      have hlisted : sg.requestId ∈ l'.result.scheduledPrefillGroups := by
        by_contra hnot
        apply hadmits
        dsimp only
        rw [(h.moved h₀).running, h.running_eq h₀, hnone, if_neg hnot]
        simp
      rw [hlist] at hlisted
      rcases List.mem_append.mp hlisted with hold | hnew
      · obtain ⟨g, hg⟩ := h.prefill_running hold
        rw [h.running_eq h₀, hnone] at hg
        simp at hg
      · obtain ⟨g, hg, hid⟩ := List.mem_map.mp hnew
        have hwait' := hpending g hg
        rw [hid, hwait] at hwait'
        cases hwait'
        exact hg
  · rw [hcharge, h.start_charges h₀]
  · rw [hlist, chunksOf_append]
    congr 1
    · have hsame : ∀ rid ∈ l.result.scheduledPrefillGroups, l'.queue.runningSeq rid = l.queue.runningSeq rid := by
        intro rid hrid
        obtain ⟨sg, hsg⟩ := h.prefill_running hrid
        rw [RequestQueue.runningSeq, RequestQueue.runningSeq, hsg, h.visits.frame.2.2.2.1 rid sg hsg]
      rw [chunksOf, chunksOf, List.filterMap_congr hsame]
    · have hseqs : (admitted.map (·.requestId)).filterMap l'.queue.runningSeq =
          admitted.map (admittedSeq S (dueFreed S s₀)) := by
        rw [List.filterMap_map, ← List.filterMap_eq_map]
        apply List.filterMap_congr
        intro sg hsg
        have hnil := (h₀.queue.waiting _ sg (hpending sg hsg)).2.2
        simp [RequestQueue.runningSeq, hrun sg hsg, admittedGroup, hnil]
      rw [chunksOf, hseqs, List.map_map]
      congr 1
      apply List.map_congr_left
      exact fun sg _ => nextChunk_admittedSeq_eq _ sg

theorem Schedules.charged_iff :
    l'.numPrefillTokens = chunksOf S.config l'.queue l'.result.scheduledPrefillGroups ↔ ChunksFit S s₀ := by
  obtain ⟨admitted, hmem, hcharged, hchunks⟩ := h.admitted h₀
  rw [hcharged, hchunks, Nat.add_left_cancel_iff, sum_min_eq_iff]
  constructor
  · intro hfit hopen sg hsg hadmission
    apply hfit
    exact (hmem sg).mpr ⟨hsg, (schedule_decides h₀ hsg).2.mpr ⟨hopen, hadmission⟩⟩
  · intro hfit sg hsg
    obtain ⟨hwait, hadmits⟩ := (hmem sg).mp hsg
    obtain ⟨hopen, hadmission⟩ := (schedule_decides h₀ hwait).2.mp hadmits
    exact hfit hopen sg hwait hadmission

lemma Schedules.chunks_built : ((prefillSeqs l'.queue (l'.report l.queue.decodes.length)).map
    (nextChunk S.config)).sum = chunksOf S.config l'.queue l'.result.scheduledPrefillGroups := by
  have hq := (h.wellFormed h₀).queue
  have hlist : (l'.report l.queue.decodes.length).scheduledPrefillGroups = l'.result.scheduledPrefillGroups := rfl
  rw [prefillSeqs, scheduledSeqs_eq hq, hlist, List.filter_eq_self.mpr, chunksOf]
  intro q hm
  obtain ⟨rid, hrid, hq'⟩ := List.mem_filterMap.mp hm
  obtain ⟨q', hq'', hstatus⟩ := h.done.scheduled.prefill rid hrid
  rw [hq'] at hq''
  cases hq''
  exact decide_eq_true hstatus

end Charges

def CountsAgree (result : ScheduleResult) (input : ModelInput) : Prop :=
  result.numPrefillTokens = input.prefillTokens ∧ result.numDecodeTokens = input.decodeEntries

lemma Builds.countsAgree_iff {s : EngineState ε} (hw : WellFormed S s.core) {now : ℚ} {l l' : BudgetLoop ε}
    {visited : List SequenceGroup} {bm : BlockManager ε} {result : ScheduleResult} {input : ModelInput}
    (h : Builds S s now l l' visited bm result (.ok input)) :
    CountsAgree result input ↔ ChunksFit S (beginStep S s now).core := by
  have hwb := beginStep_wellFormed hw now
  obtain ⟨hsched, rfl, -, hbuilt⟩ := h
  cases hbuilt
  rw [← hsched.charged_iff hwb, CountsAgree, batchInput_prefillTokens, batchInput_decodeEntries,
    hsched.chunks_built hwb, hsched.decodeSeqs_length hwb]
  exact and_iff_left rfl

lemma countsAgree_iff {s : EngineState ε} (hw : WellFormed S s.core) (now : ℚ) :
    (∀ result input, buildCall S s now = some (result, .ok input) → CountsAgree result input) ↔
      ((buildCall S s now).isSome → ChunksFit S (beginStep S s now).core) := by
  constructor
  · intro hagree hsome
    obtain ⟨⟨result, x⟩, hcall⟩ := Option.isSome_iff_exists.mp hsome
    obtain ⟨l, l', visited, bm, hbuilds⟩ := buildCall_spec hw hcall
    obtain rfl := hbuilds.built
    exact (hbuilds.countsAgree_iff hw).mp (hagree _ _ hcall)
  · intro hfit result input hcall
    obtain ⟨l, l', visited, bm, hbuilds⟩ := buildCall_spec hw hcall
    apply (hbuilds.countsAgree_iff hw).mpr
    apply hfit
    rw [hcall]
    rfl

theorem token_counts_agree_iff (S : Setup ε) (ops : List LLMEngine.Op) (now : ℚ) :
    (∀ result input, buildCall S (LLMEngine.run S ops) now = some (result, .ok input) → CountsAgree result input) ↔
      ((buildCall S (LLMEngine.run S ops) now).isSome → ChunksFit S (beginStep S (LLMEngine.run S ops) now).core) :=
  countsAgree_iff (wellFormed_run S ops) now

lemma chunksFit_of_chunked (h : S.config.chunkedPrefillEnabled = true) (s₀ : CoreState ε) : ChunksFit S s₀ := by
  intro _ sg _ _
  simp only [admissionCost, admissionChunk, h, if_true]
  split_ifs
  · exact Nat.min_le_left _ _
  · exact Nat.min_le_right _ _

instance (s₀ : CoreState ε) : Decidable (ChunksFit S s₀) := inferInstanceAs (Decidable (_ → ∀ sg ∈ _, _ → _))

def unchunked : Config := { Config.default with chunkedPrefillEnabled := false }

theorem whole_prompt_charged : ¬ ∀ (config : Config) (blockHash : List ℕ → ℤ) (ops : List LLMEngine.Op) (now : ℚ),
    (∀ r ∈ requestsOf (fakeSetup config blockHash) ops, r.1 ≠ []) →
    ∀ result input, buildCall (fakeSetup config blockHash) (LLMEngine.run (fakeSetup config blockHash) ops) now =
      some (result, .ok input) → CountsAgree result input := by
  intro h
  have hagree := h unchunked codeHash [.addRequest ['a', 'b', 'c', 'd', 'e'] 1 0] 0 (by decide)
  have hfit := (countsAgree_iff (wellFormed_run (fakeSetup unchunked codeHash) _) 0).mp hagree
  revert hfit
  decide +kernel

end MiniVllm
