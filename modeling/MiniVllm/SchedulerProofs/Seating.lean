import MiniVllm.SchedulerProofs.Partition

/-! Where the token budgets cover every seat, a schedule passes over nobody and fills the seats in line. -/

namespace MiniVllm

open Scheduler Scheduler.BudgetLoop EngineCore

variable {ε : Type} {S : Setup ε}

/-- Prompts are prefilled in chunks, and both token budgets cover a chunk for every seat. -/
structure SeatsCovered (config : Config) : Prop where
  chunked : config.chunkedPrefillEnabled = true
  tokens : config.maxNumSeqs * config.maxPrefillChunkSize ≤ config.maxNumBatchedTokens
  prefill : config.maxNumSeqs * config.maxPrefillChunkSize ≤ config.maxNumPrefillTokens

instance (config : Config) : Decidable (SeatsCovered config) :=
  decidable_of_iff (config.chunkedPrefillEnabled = true ∧
      config.maxNumSeqs * config.maxPrefillChunkSize ≤ config.maxNumBatchedTokens ∧
      config.maxNumSeqs * config.maxPrefillChunkSize ≤ config.maxNumPrefillTokens)
    ⟨fun h => ⟨h.1, h.2.1, h.2.2⟩, fun h => ⟨h.chunked, h.tokens, h.prefill⟩⟩

lemma sum_nextChunk_le (config : Config) (qs : List Sequence) :
    (qs.map (nextChunk config)).sum ≤ qs.length * config.maxPrefillChunkSize := by
  have hle := List.sum_le_card_nsmul (qs.map (nextChunk config)) config.maxPrefillChunkSize fun n hn => by
    obtain ⟨q, -, rfl⟩ := List.mem_map.mp hn
    exact Nat.min_le_right _ _
  rwa [List.length_map, smul_eq_mul] at hle

lemma SeatsCovered.fits {config : Config} (hc : SeatsCovered config) {d p : ℕ} (hn : d + p ≤ config.maxNumSeqs) :
    d + p * config.maxPrefillChunkSize ≤ config.maxNumBatchedTokens ∧
      p * config.maxPrefillChunkSize ≤ config.maxNumPrefillTokens := by
  have hall := Nat.mul_le_mul_right config.maxPrefillChunkSize hn
  have hd := Nat.le_mul_of_pos_right d config.maxPrefillChunkSize_pos
  have htokens := hc.tokens
  have hprefill := hc.prefill
  rw [Nat.add_mul] at hall
  omega

lemma SeatsCovered.prefillsFit {s₀ : CoreState ε} (h₀ : WellFormed S s₀) (hc : SeatsCovered S.config)
    (hn : s₀.queue.numRunning ≤ S.config.maxNumSeqs) : PrefillsFit S.config s₀.queue.staying := by
  have hlen : (s₀.queue.staying.filter (·.status ≠ .prefill)).length +
      (s₀.queue.staying.filter (·.status = .prefill)).length ≤ S.config.maxNumSeqs := by
    rw [h₀.queue.numRunning_eq] at hn
    refine le_trans (Nat.add_le_add ?_ ?_) hn
    · exact (List.filter_sublist.filter _).length_le
    · exact (List.filter_sublist.filter _).length_le
  have hsum := sum_nextChunk_le S.config (s₀.queue.staying.filter (·.status = .prefill))
  obtain ⟨htokens, hprefill⟩ := hc.fits hlen
  exact Or.inr ⟨by omega, by omega⟩

lemma SeatsCovered.numRunning_run (hc : SeatsCovered S.config) (ops : List LLMEngine.Op) :
    (LLMEngine.run S ops).queue.numRunning ≤ S.config.maxNumSeqs := by
  induction ops using List.reverseRecOn with
  | nil => exact Nat.zero_le _
  | append_singleton ops op ih =>
    have hw := wellFormed_run S ops
    have hop : (prefillsContinue S).Apply (LLMEngine.run S ops) op := by
      cases op with
      | addRequest => trivial
      | cancelRequest => trivial
      | checkTimeouts => trivial
      | step now =>
        have hb := beginStep_refines (c := seated S) hw now
        exact hc.prefillsFit (hw.reaches hb) (numRunning_reaches hw ih hb)
    rw [LLMEngine.run_concat]
    exact numRunning_runFrom hw ih [op] ⟨hop, trivial⟩

lemma continuePrefills_scheduled (items : List (SequenceGroup × Sequence)) (l : BudgetLoop ε)
    (ht : (((items.map Prod.snd).map (nextChunk S.config)).sum : ℤ) ≤ l.prefillBudget)
    (hs : (items.length : ℤ) ≤ l.remainingSeqBudget) :
    (items.foldl (continuePrefill S) l).result.scheduledPrefillGroups =
      l.result.scheduledPrefillGroups ++ items.map (·.1.requestId) := by
  induction items generalizing l with
  | nil => simp
  | cons item rest ih =>
    simp only [List.map_cons, List.sum_cons, Nat.cast_add, List.length_cons, Nat.cast_succ] at ht hs
    have hseat : ¬ l.remainingSeqBudget ≤ 0 := by omega
    have hfit : ¬ (nextChunk S.config item.2 : ℤ) > l.prefillBudget := by omega
    have hbudgets := continuePrefill_budgets (S := S) l item
    rw [place_of_fits _ _ (not_le.mp hseat) (not_lt.mp hfit)] at hbudgets
    have hone : (continuePrefill S l item).result.scheduledPrefillGroups =
        l.result.scheduledPrefillGroups ++ [item.1.requestId] := by
      rw [nextChunk] at hfit
      simp only [continuePrefill, hseat, hfit, if_false]
    have hp : (continuePrefill S l item).prefillBudget = l.prefillBudget - nextChunk S.config item.2 :=
      congrArg Prod.fst hbudgets
    have hr : (continuePrefill S l item).remainingSeqBudget = l.remainingSeqBudget - 1 := congrArg Prod.snd hbudgets
    rw [List.foldl_cons, ih _ (by omega) (by omega), hone, List.append_assoc]
    rfl

lemma Visits.admits_head (hc : SeatsCovered S.config) {l l' : BudgetLoop ε} {groups : List SequenceGroup}
    (h : Visits S l groups l') (hseats : 0 ≤ l.remainingSeqBudget)
    (hbudget : l.remainingSeqBudget * S.config.maxPrefillChunkSize ≤ l.prefillBudget) :
    l'.result.scheduledPrefillGroups =
        l.result.scheduledPrefillGroups ++ (groups.map (·.requestId)).take l.remainingSeqBudget.toNat ∧
      l'.result.rejectedGroups = l.result.rejectedGroups := by
  induction h with
  | nil => simp
  | @cons l l₁ l₂ sg rest hv _ ih =>
    have hcost : (MiniVllm.admissionCost S l.blockManager sg : ℤ) ≤ S.config.maxPrefillChunkSize := by
      have hle : MiniVllm.admissionCost S l.blockManager sg ≤ S.config.maxPrefillChunkSize := by
        have hu : uncachedTokens S l.blockManager sg ≤ sg.promptTokenIds.length := Nat.sub_le _ _
        simp only [MiniVllm.admissionCost, admissionChunk, hc.chunked, if_true]
        split_ifs <;> omega
      exact_mod_cast hle
    have hfits : 0 < l.remainingSeqBudget → ¬ (MiniVllm.admissionCost S l.blockManager sg : ℤ) > l.prefillBudget := by
      intro hpos
      have hone : (S.config.maxPrefillChunkSize : ℤ) ≤ l.remainingSeqBudget * S.config.maxPrefillChunkSize :=
        le_mul_of_one_le_left (Int.natCast_nonneg _) hpos
      omega
    cases hv with
    | skip reason hd =>
      have hnone : l.remainingSeqBudget = 0 := by
        by_contra hne
        have hpos : 0 < l.remainingSeqBudget := by omega
        simp only [MiniVllm.admissionOf, BudgetLoop.budgets, not_le.mpr hpos, hfits hpos, if_false] at hd
        rcases hd with hd | hd <;> cases hd
      obtain ⟨hsched, hrej⟩ := ih hseats hbudget
      have hsame : (l.ignore sg.requestId reason).remainingSeqBudget = 0 := hnone
      rw [hsame, Int.toNat_zero, List.take_zero] at hsched
      rw [hnone, Int.toNat_zero, List.take_zero]
      exact ⟨hsched, hrej⟩
    | reject hd hwait =>
      exfalso
      by_cases hpos : 0 < l.remainingSeqBudget
      · simp only [MiniVllm.admissionOf, BudgetLoop.budgets, not_le.mpr hpos, hfits hpos, if_false] at hd
        cases hd
      · simp only [MiniVllm.admissionOf, BudgetLoop.budgets, not_lt.mp hpos, if_true] at hd
        cases hd
    | admission bm result hd hwait hfresh ha hresult =>
      have hpos : 0 < l.remainingSeqBudget := by
        by_contra hle
        simp only [MiniVllm.admissionOf, BudgetLoop.budgets, not_lt.mp hle, if_true] at hd
        cases hd
      obtain ⟨k, hk⟩ : ∃ k : ℕ, l.remainingSeqBudget = k + 1 := ⟨(l.remainingSeqBudget - 1).toNat, by omega⟩
      simp only [hk, add_sub_cancel_right] at ih hbudget ⊢
      obtain ⟨hsched, hrej⟩ := ih (Int.natCast_nonneg k) (by rw [add_mul, one_mul] at hbudget; omega)
      have htake : ((k : ℤ) + 1).toNat = k + 1 := by omega
      rw [hsched, hrej, hresult.1, hresult.2.2.1, htake, Int.toNat_natCast, List.map_cons, List.take_succ_cons,
        List.append_assoc]
      exact ⟨rfl, rfl⟩

structure FillsSeats (S : Setup ε) (l l' : BudgetLoop ε) (visited : List SequenceGroup) : Prop where
  continued : ∀ rid, l.queue.running.get? rid ≠ none →
    rid ∈ l.result.scheduledPrefillGroups ∨ rid ∈ l.result.scheduledDecodeGroups
  admitted : l'.result.scheduledPrefillGroups = l.result.scheduledPrefillGroups ++
    (visited.map (·.requestId)).take (S.config.maxNumSeqs - l.queue.numRunning)
  rejected : l'.result.rejectedGroups = []

section Schedule

variable {s₀ : CoreState ε} (h₀ : WellFormed S s₀) {l l' : BudgetLoop ε} {visited : List SequenceGroup}
  (h : Schedules S s₀ l l' visited) (hc : SeatsCovered S.config) (hn : s₀.queue.numRunning ≤ S.config.maxNumSeqs)

include h₀ h

lemma Schedules.numRunning_le : l.queue.numRunning ≤ s₀.queue.numRunning := by
  have hsize : ∀ d : Dict RequestId SequenceGroup, d.size = d.values.length := fun d => by simp [Dict.size, Dict.values]
  rw [h.queue, RequestQueue.numRunning, RequestQueue.numRunning, hsize, hsize, finishLoop_values h₀,
    (finishLoop_pass h₀).keep]
  exact List.length_filter_le _ _

include hc hn

lemma Schedules.continued (rid : RequestId) (hrid : l.queue.running.get? rid ≠ none) :
    rid ∈ l.result.scheduledPrefillGroups ∨ rid ∈ l.result.scheduledDecodeGroups := by
  obtain ⟨decode, prefill, hl, hone, hperm⟩ := h.phases h₀
  have hkeep : (finishLoop S s₀.queue s₀.blockManager).queue.running.values =
      (finishLoop S s₀.queue s₀.blockManager).keepRunningGroups := finishLoop_values h₀
  have hlen : prefill.length + decode.length ≤ S.config.maxNumSeqs := by
    have hle := h.numRunning_le h₀
    have hperm := hperm.length_eq
    rw [h.queue, RequestQueue.numRunning, Dict.size] at hle
    rw [← hkeep, Dict.values, List.length_map, List.length_append, List.length_map] at hperm
    omega
  have hdecode : numDecode decode = decode.length := by
    rw [numDecode, List.sum_eq_card_nsmul _ 1, List.length_map, smul_eq_mul, Nat.mul_one]
    intro n hm
    obtain ⟨sg, hsg, rfl⟩ := List.mem_map.mp hm
    obtain ⟨q, hq, hphase⟩ := finishLoop_live h₀ (hperm.subset (List.mem_append_right _ hsg))
    rw [getUnfinishedSeqs_one hq hphase]
    rfl
  have hsum := sum_nextChunk_le S.config (prefill.map Prod.snd)
  rw [List.length_map] at hsum
  obtain ⟨htokens, hprefill⟩ := hc.fits ((Nat.add_comm _ _).trans_le hlen)
  have hsched := continuePrefills_scheduled (S := S) prefill
    (decodeFirst S (finishLoop S s₀.queue s₀.blockManager) decode)
    (by simp only [decodeFirst, hdecode]; omega) (by simp only [decodeFirst, hdecode]; omega)
  obtain ⟨-, -, hdecs, -⟩ := continuePrefill_frame (S := S) prefill
    (decodeFirst S (finishLoop S s₀.queue s₀.blockManager) decode)
  rw [← hl] at hsched hdecs
  obtain ⟨sg, hsg⟩ := Option.ne_none_iff_exists'.mp hrid
  rw [h.queue] at hsg
  have hmem : sg ∈ prefill.map Prod.fst ++ decode := by
    rw [hperm.mem_iff, ← hkeep, Dict.mem_values]
    exact ⟨rid, hsg⟩
  have hid : sg.requestId = rid := ((finishLoop_wellFormed h₀).queue.running rid sg hsg).1
  rcases List.mem_append.mp hmem with hm | hm
  · obtain ⟨item, hitem, rfl⟩ := List.mem_map.mp hm
    left
    rw [hsched, ← hid]
    exact List.mem_append_right _ (List.mem_map.mpr ⟨item, hitem, rfl⟩)
  · right
    rw [hdecs, ← hid]
    exact List.mem_map.mpr ⟨sg, hm, rfl⟩

lemma Schedules.seats_left : l.remainingSeqBudget = S.config.maxNumSeqs - l.queue.numRunning ∧
    l.remainingSeqBudget * S.config.maxPrefillChunkSize ≤ l.prefillBudget := by
  have hle := h.numRunning_le h₀
  have hseated : l.remainingSeqBudget + l.queue.numRunning = S.config.maxNumSeqs :=
    h.seated h₀ hn (hc.prefillsFit h₀ hn)
  have hnum : l.queue.numRunning = l.queue.decodes.length + l.queue.prefills.length :=
    (h₀.reaches h.admitting.reach).queue.numRunning_eq
  have hsum := sum_nextChunk_le S.config l.queue.prefills
  have hfill := h.budgets
  obtain ⟨htokens, hprefill⟩ := hc.fits (d := l.queue.decodes.length)
    (p := S.config.maxNumSeqs - l.queue.decodes.length) (by omega)
  have hsplit : (S.config.maxNumSeqs - l.queue.decodes.length) * S.config.maxPrefillChunkSize =
      (S.config.maxNumSeqs - l.queue.numRunning) * S.config.maxPrefillChunkSize +
        l.queue.prefills.length * S.config.maxPrefillChunkSize := by
    rw [← Nat.add_mul]
    congr 1
    omega
  rw [fill_all] at hfill
  · have hp : l.prefillBudget = _ := congrArg Prod.fst hfill
    have hr : l.remainingSeqBudget = ((S.config.maxNumSeqs - l.queue.numRunning : ℕ) : ℤ) := by omega
    refine ⟨by omega, ?_⟩
    rw [hp, hr, ← Nat.cast_mul]
    simp only
    omega
  · simp only
    omega
  · simp only [List.length_map]
    omega

theorem Schedules.fillsSeats : FillsSeats S l l' visited := by
  have hle := h.numRunning_le h₀
  obtain ⟨hseats, hbudget⟩ := h.seats_left h₀ hc hn
  obtain ⟨hsched, hrej⟩ := h.visits.admits_head hc (by omega) hbudget
  refine ⟨h.continued h₀ hc hn, ?_, ?_⟩
  · rw [hsched, hseats]
    congr 2
    omega
  · rw [hrej, h.rejectedGroups]

end Schedule

end MiniVllm
