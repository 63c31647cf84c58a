import MiniVllm.EngineProofs.Ages
import MiniVllm.EngineProofs.Registry
import MiniVllm.Library.Tally
import MiniVllm.SchedulerProofs.Partition

/-! The reported hit rate sets the cached tokens of every admission against the prompts of the finished requests. -/

namespace MiniVllm

open EngineCore Scheduler Scheduler.BudgetLoop

variable {ε : Type} {S : Setup ε}

def hitTokens (S : Setup ε) (bm : BlockManager ε) (sg : SequenceGroup) : ℕ :=
  (bm.probePrefixCache S.blockParams sg.promptTokenIds).cachedTokenCount

lemma hitTokens_le (bm : BlockManager ε) (sg : SequenceGroup) : hitTokens S bm sg ≤ sg.promptTokenIds.length := by
  rw [hitTokens, WellFormed.cachedTokenCount_eq]
  exact Nat.min_le_right _ _

lemma continuePrefill_cached (l : BudgetLoop ε) (item : SequenceGroup × Sequence) :
    (continuePrefill S l item).result.cachedTokenCount = l.result.cachedTokenCount := by
  simp only [continuePrefill]
  split_ifs <;> rfl

lemma continuePrefills_cached (items : List (SequenceGroup × Sequence)) (l : BudgetLoop ε) :
    (items.foldl (continuePrefill S) l).result.cachedTokenCount = l.result.cachedTokenCount := by
  induction items generalizing l with
  | nil => rfl
  | cons item rest ih => exact (ih _).trans (continuePrefill_cached l item)

structure CountsHits (S : Setup ε) (bm : BlockManager ε) (admitted : List SequenceGroup) (l l' : BudgetLoop ε) :
    Prop where
  listed : l'.result.scheduledPrefillGroups = l.result.scheduledPrefillGroups ++ admitted.map (·.requestId)
  counted : l'.result.cachedTokenCount = l.result.cachedTokenCount + (admitted.map (hitTokens S bm)).sum

lemma CountsHits.nil (bm : BlockManager ε) {l l' : BudgetLoop ε}
    (hlist : l'.result.scheduledPrefillGroups = l.result.scheduledPrefillGroups)
    (hcount : l'.result.cachedTokenCount = l.result.cachedTokenCount) : CountsHits S bm [] l l' :=
  ⟨by simpa using hlist, by simpa using hcount⟩

lemma CountsHits.append {bm : BlockManager ε} {xs ys : List SequenceGroup} {l l₁ l' : BudgetLoop ε}
    (h : CountsHits S bm xs l l₁) (h' : CountsHits S bm ys l₁ l') : CountsHits S bm (xs ++ ys) l l' := by
  refine ⟨?_, ?_⟩
  · rw [h'.listed, h.listed, List.map_append, List.append_assoc]
  · rw [h'.counted, h.counted, List.map_append, List.sum_append, Nat.add_assoc]

lemma admitWaiting_cached {l l' : BudgetLoop ε} {sg : SequenceGroup} (he : admitWaiting S l sg = (.ok (), l')) :
    ∃ admitted, (∀ g ∈ admitted, g = sg) ∧ CountsHits S l.blockManager admitted l l' := by
  simp only [admitWaiting] at he
  split at he
  · cases he
    exact ⟨[], by simp, .nil _ rfl rfl⟩
  · cases he
    exact ⟨[], by simp, .nil _ rfl rfl⟩
  · cases he
    exact ⟨[], by simp, .nil _ rfl rfl⟩
  · simp only [admitGroup] at he
    split at he
    · cases he
    · cases he
      exact ⟨[sg], by simp, rfl, by simp [hitTokens]⟩

lemma admitWaitings_cached {s₀ : CoreState ε} (h₀ : WellFormed S s₀) {l l' : BudgetLoop ε}
    {groups : List SequenceGroup} (h : Admitting S {} s₀ l groups)
    (he : forEach (admitWaiting S) l groups = (.ok (), l')) :
    ∃ admitted, (∀ sg ∈ admitted, sg ∈ groups) ∧ CountsHits S l.blockManager admitted l l' := by
  induction groups generalizing l with
  | nil =>
    cases he
    exact ⟨[], by simp, .nil _ rfl rfl⟩
  | cons sg rest ih =>
    obtain ⟨l₁, hone, hv⟩ := admitWaiting_visit h₀ h
    have hnext := (h.step h₀ ⟨fun _ => trivial, fun _ => trivial⟩).2
    rw [hone] at hnext
    simp only [forEach, hone] at he
    obtain ⟨first, hfirst, hc⟩ := admitWaiting_cached hone
    obtain ⟨later, hlater, hcs⟩ := ih hnext he
    have hprobe : hitTokens S l₁.blockManager = hitTokens S l.blockManager := by
      funext g
      rw [hitTokens, hitTokens, hv.probe]
    refine ⟨first ++ later, fun g hg => ?_, hc.append ⟨hcs.listed, ?_⟩⟩
    · rcases List.mem_append.mp hg with hg | hg
      · rw [hfirst g hg]
        exact List.mem_cons_self
      · exact List.mem_cons_of_mem sg (hlater g hg)
    · rw [hcs.counted, hprobe]

def hitsOn (S : Setup ε) (s₀ : CoreState ε) (result : ScheduleResult) : List (RequestId × ℕ) :=
  result.scheduledPrefillGroups.filterMap (fun rid =>
    (s₀.queue.waiting.get? rid).map (fun sg => (rid, hitTokens S (dueFreed S s₀) sg)))

section Schedule

variable {s₀ : CoreState ε} (h₀ : WellFormed S s₀) {l l' : BudgetLoop ε} {visited : List SequenceGroup}
  (h : Schedules S s₀ l l' visited)

include h₀ h

lemma Schedules.cached_start : l.result.cachedTokenCount = 0 := by
  obtain ⟨decode, prefill, hl, -⟩ := h.phases h₀
  rw [hl, continuePrefills_cached]
  rfl

lemma Schedules.hits : ∃ admitted : List SequenceGroup,
    (∀ sg ∈ admitted, s₀.queue.waiting.get? sg.requestId = some sg) ∧
      CountsHits S (dueFreed S s₀) admitted l l' := by
  obtain ⟨l₂, hloop, -⟩ := admitWaiting_visits h₀ h.admitting
  obtain ⟨n, queue, bm, hb⟩ := h.before
  have hresult := h.result
  simp only [schedule, hb, hloop, Prod.mk.injEq, Except.ok.injEq] at hresult
  obtain ⟨admitted, hsub, hc⟩ := admitWaitings_cached h₀ h.admitting hloop
  rw [h.blockManager_eq h₀] at hc
  refine ⟨admitted, fun sg hsg => ?_, ?_, ?_⟩
  · rw [← h.waiting_eq h₀]
    exact h.admitting.pending sg (hsub sg hsg)
  · rw [← hc.listed]
    exact (congrArg ScheduleResult.scheduledPrefillGroups hresult.1).symm
  · rw [← hc.counted]
    exact (congrArg ScheduleResult.cachedTokenCount hresult.1).symm

lemma Schedules.hitsOn_eq {n : ℕ} : ∃ admitted : List SequenceGroup,
    (∀ sg ∈ admitted, s₀.queue.waiting.get? sg.requestId = some sg) ∧ (admitted.map (·.requestId)).Nodup ∧
      (∀ sg ∈ admitted, l'.queue.waiting.get? sg.requestId = none) ∧
      hitsOn S s₀ (l'.report n) = admitted.map (fun sg => (sg.requestId, hitTokens S (dueFreed S s₀) sg)) ∧
      l'.result.cachedTokenCount = (admitted.map (hitTokens S (dueFreed S s₀))).sum := by
  obtain ⟨admitted, hwait, hlisted, hcounted⟩ := h.hits h₀
  rw [h.cached_start h₀, Nat.zero_add] at hcounted
  have hlist : (l'.report n).scheduledPrefillGroups =
      l.result.scheduledPrefillGroups ++ admitted.map (·.requestId) := hlisted
  refine ⟨admitted, hwait, ?_, fun sg hsg => ?_, ?_, hcounted⟩
  · have hnd := h.done.scheduled.nodup
    rw [hlisted, List.append_assoc] at hnd
    exact (List.nodup_append.mp (List.nodup_append.mp hnd).2.1).1
  · rw [(h.moved h₀).waiting, if_pos]
    rw [hlisted]
    exact Or.inl (List.mem_append_right _ (List.mem_map_of_mem hsg))
  · have hold : ∀ rid ∈ l.result.scheduledPrefillGroups, s₀.queue.waiting.get? rid = none := by
      intro rid hrid
      obtain ⟨sg, hsg⟩ := h.prefill_running hrid
      rw [← h.waiting_eq h₀]
      exact (h₀.reaches h.admitting.reach).queue.waiting_of_running hsg
    rw [hitsOn, hlist, List.filterMap_append, List.filterMap_map]
    have hnone : l.result.scheduledPrefillGroups.filterMap (fun rid =>
        (s₀.queue.waiting.get? rid).map (fun sg => (rid, hitTokens S (dueFreed S s₀) sg))) = [] := by
      rw [List.filterMap_eq_nil_iff]
      intro rid hrid
      rw [hold rid hrid]
      rfl
    rw [hnone, List.nil_append, ← List.filterMap_eq_map]
    apply List.filterMap_congr
    intro sg hsg
    simp [hwait sg hsg]

end Schedule

/-- The hits that a call records: those of the admissions of a step that returns. -/
def hitsOf (S : Setup ε) (s : EngineState ε) : LLMEngine.Op → List (RequestId × ℕ)
  | .step now =>
    match (LLMEngine.step S s now).1 with
    | .error _ => []
    | .ok result => hitsOn S (beginStep S s now).core result
  | _ => []

def hits (S : Setup ε) (ops : List LLMEngine.Op) : List (RequestId × ℕ) := collect (hitsOf S) S ops

structure HitLedger (s : EngineState ε) (requests : List (List ℕ × SamplingParams)) (entries : List (RequestId × ℕ)) :
    Prop where
  total : s.metrics.totalCachedTokens = (entries.map Prod.snd).sum
  nodup : (entries.map Prod.fst).Nodup
  admitted : ∀ e ∈ entries, e.1 < s.seqGroupCount ∧ s.queue.waiting.get? e.1 = none
  bounded : ∀ e ∈ entries, ∃ r, requests[e.1]? = some r ∧ e.2 ≤ r.1.length

section Extend

variable {s s' : EngineState ε} {requests : List (List ℕ × SamplingParams)} {entries new : List (RequestId × ℕ)}
  (h : HitLedger s requests entries) (hw : WellFormed S s.core) (hreach : Reaches S {} s.core s'.core)

include h hw hreach

lemma HitLedger.admitted_later {e : RequestId × ℕ} (he : e ∈ entries) :
    e.1 < s'.seqGroupCount ∧ s'.queue.waiting.get? e.1 = none := by
  obtain ⟨hlt, hnone⟩ := h.admitted e he
  have hcount : s.seqGroupCount ≤ s'.seqGroupCount := Reaches.seqGroupCount_le hreach
  exact ⟨hlt.trans_le hcount, Reaches.stays_out hw hreach hlt hnone⟩

lemma HitLedger.carry {more : List (List ℕ × SamplingParams)}
    (hcached : s'.metrics.timelineCached = s.metrics.timelineCached) : HitLedger s' (requests ++ more) entries := by
  refine ⟨?_, h.nodup, fun e he => h.admitted_later hw hreach he, fun e he => ?_⟩
  · rw [MetricsCollector.totalCachedTokens, hcached]
    exact h.total
  · obtain ⟨r, hr, hle⟩ := h.bounded e he
    exact ⟨r, by rw [List.getElem?_append_left (List.getElem?_eq_some_iff.mp hr).1, hr], hle⟩

lemma HitLedger.extend {count : ℕ} (hcached : s'.metrics.timelineCached = s.metrics.timelineCached ++ [count])
    (hsum : (new.map Prod.snd).sum = count) (hnd : (new.map Prod.fst).Nodup)
    (hfresh : ∀ e ∈ new, e.1 ∉ entries.map Prod.fst)
    (hadmitted : ∀ e ∈ new, e.1 < s'.seqGroupCount ∧ s'.queue.waiting.get? e.1 = none)
    (hbounded : ∀ e ∈ new, ∃ r, requests[e.1]? = some r ∧ e.2 ≤ r.1.length) :
    HitLedger s' requests (entries ++ new) := by
  refine ⟨?_, ?_, fun e he => ?_, fun e he => ?_⟩
  · rw [MetricsCollector.totalCachedTokens, hcached, List.sum_append, List.sum_singleton, List.map_append,
      List.sum_append, hsum, ← h.total, MetricsCollector.totalCachedTokens]
  · rw [List.map_append]
    refine h.nodup.append hnd fun rid hold hnew => ?_
    obtain ⟨e, he, rfl⟩ := List.mem_map.mp hnew
    exact hfresh e he hold
  · rcases List.mem_append.mp he with hold | hnew
    · exact h.admitted_later hw hreach hold
    · exact hadmitted e hnew
  · rcases List.mem_append.mp he with hold | hnew
    · exact h.bounded e hold
    · exact hbounded e hnew

end Extend

section Step

variable {s : EngineState ε} {requests : List (List ℕ × SamplingParams)} {entries : List (RequestId × ℕ)}

lemma checkTimeouts_cached (S : Setup ε) (s : EngineState ε) (now : ℚ) :
    (checkTimeouts S s now).metrics.timelineCached = s.metrics.timelineCached := by
  obtain ⟨queue, bm, reports, timeouts, h⟩ := checkTimeouts_frame S s now
  rw [h]

lemma cancelRequest_cached (S : Setup ε) (s : EngineState ε) (rid : RequestId) :
    (cancelRequest S s rid).2.metrics.timelineCached = s.metrics.timelineCached := by
  obtain ⟨queue, bm, reports, cancelled, h⟩ := cancelRequest_frame S s rid
  rw [h]

lemma beginStep_cached (S : Setup ε) (s : EngineState ε) (now : ℚ) :
    (beginStep S s now).metrics.timelineCached = s.metrics.timelineCached :=
  checkTimeouts_cached S _ now

lemma recordStep_cached (s : EngineState ε) (result : ScheduleResult) :
    (recordStep (cleanupFinished S s result) result).metrics.timelineCached =
      s.metrics.timelineCached ++ [result.cachedTokenCount] := by
  obtain ⟨bm, reports, h⟩ := cleanupFinished_reporting S s result
  rw [h]
  rfl

lemma HitLedger.step (hw : WellFormed S s.core) (h : HitLedger s requests entries) (hs : Serves requests s.queue)
    (now : ℚ) : HitLedger (LLMEngine.apply S s (.step now)) requests (entries ++ hitsOf S s (.step now)) := by
  have hwb := beginStep_wellFormed hw now
  have hbegin := beginStep_refines (c := {}) hw now
  have hreach : Reaches S {} s.core (LLMEngine.apply S s (.step now)).core := apply_refines hw (step_true s now)
  have hcached : (LLMEngine.apply S s (.step now)).metrics.timelineCached =
      (EngineCore.step S s now).2.metrics.timelineCached := by
    rw [LLMEngine.apply, LLMEngine.step_metrics]
  have hqueue : (LLMEngine.apply S s (.step now)).queue = (EngineCore.step S s now).2.queue :=
    LLMEngine.step_queue s now
  have hresult := (LLMEngine.step_result (S := S) s now).1
  have hsteps := step_steps hw now
  rw [hitsOf, hresult]
  generalize EngineCore.step S s now = out at hsteps hcached hqueue ⊢
  obtain ⟨r, s'⟩ := out
  cases hsteps with
  | raised l l' visited err bm hsched hexec =>
    rw [List.append_nil, ← List.append_nil requests]
    exact h.carry hw hreach (hcached.trans (beginStep_cached S s now))
  | done l l' visited queue bm hsched hexec hframe =>
    obtain ⟨admitted, hwait, hnd, hout, hits, hcount⟩ := hsched.hitsOn_eq hwb (n := l.queue.decodes.length)
    have hrecord : (LLMEngine.apply S s (.step now)).metrics.timelineCached =
        s.metrics.timelineCached ++ [l'.result.cachedTokenCount] := by
      rw [← beginStep_cached S s now]
      exact hcached.trans (recordStep_cached { beginStep S s now with queue := queue, blockManager := bm } _)
    have hwaiting : (LLMEngine.apply S s (.step now)).queue.waiting = l'.queue.waiting := by
      rw [← hframe.1, hqueue]
      exact congrArg RequestQueue.waiting
        (recordStep_queue S { beginStep S s now with queue := queue, blockManager := bm } _)
    dsimp only
    rw [hits]
    refine h.extend hw hreach hrecord ?_ ?_ (fun e he hm => ?_) (fun e he => ?_) fun e he => ?_
    · rw [hcount, List.map_map]
      rfl
    · rw [List.map_map]
      exact hnd
    · obtain ⟨sg, hsg, rfl⟩ := List.mem_map.mp he
      obtain ⟨e, hold, hid⟩ := List.mem_map.mp hm
      obtain ⟨hlt, hnone⟩ := h.admitted e hold
      have hstill := Reaches.stays_out hw hbegin hlt hnone
      rw [hid, hwait sg hsg] at hstill
      cases hstill
    · obtain ⟨sg, hsg, rfl⟩ := List.mem_map.mp he
      have hlt : sg.requestId < s.seqGroupCount := by
        have hlt := (hwb.queue.waiting _ sg (hwait sg hsg)).2.1
        rw [show (beginStep S s now).core.seqGroupCount = s.seqGroupCount from beginStep_seqGroupCount s now] at hlt
        exact hlt
      refine ⟨?_, ?_⟩
      · rw [LLMEngine.apply, LLMEngine.step_count]
        exact hlt
      · rw [hwaiting]
        exact hout sg hsg
    · obtain ⟨sg, hsg, rfl⟩ := List.mem_map.mp he
      have hserves : Serves requests (beginStep S s now).core.queue :=
        Serves.reaches hw hs hbegin (beginStep_seqGroupCount s now)
      exact ⟨_, hserves _ sg (Or.inl (hwait sg hsg)), hitTokens_le _ sg⟩

end Step

lemma hitLedger_run (S : Setup ε) (ops : List LLMEngine.Op) :
    HitLedger (LLMEngine.run S ops) (requestsOf S ops) (hits S ops) := by
  induction ops using List.reverseRecOn with
  | nil => exact ⟨rfl, List.nodup_nil, fun e he => absurd he List.not_mem_nil, fun e he => absurd he List.not_mem_nil⟩
  | append_singleton ops op ih =>
    have hw := wellFormed_run S ops
    have hadd : requestsOf S (ops ++ [op]) = requestsOf S ops ++ requestsOf S [op] := requestsOf_append S ops [op]
    have hhits : hits S (ops ++ [op]) = hits S ops ++ hitsOf S (LLMEngine.run S ops) op :=
      collect_concat (hitsOf S) S ops op
    rw [hadd, hhits, LLMEngine.run_concat]
    cases op with
    | addRequest prompt maxNewTokens now =>
      rw [show hitsOf S _ (.addRequest prompt maxNewTokens now) = [] from rfl, List.append_nil]
      exact ih.carry hw (apply_refines (c := {}) hw (by trivial)) rfl
    | cancelRequest rid =>
      rw [show hitsOf S _ (.cancelRequest rid) = [] from rfl, List.append_nil]
      exact ih.carry hw (cancelRequest_refines hw rid) (cancelRequest_cached S _ rid)
    | checkTimeouts now =>
      rw [show hitsOf S _ (.checkTimeouts now) = [] from rfl, List.append_nil]
      exact ih.carry hw (checkTimeouts_refines hw now) (checkTimeouts_cached S _ now)
    | step now =>
      rw [show requestsOf S [.step now] = [] from rfl, List.append_nil]
      exact ih.step hw (serves_run S ops).2 now

def HitRateIsPercentage (s : EngineState ε) : Prop :=
  0 ≤ s.report.prefixCacheHitRate ∧ s.report.prefixCacheHitRate ≤ 100

instance (s : EngineState ε) : Decidable (HitRateIsPercentage s) := inferInstanceAs (Decidable (_ ∧ _))

lemma isPercentage_iff (s : EngineState ε) : HitRateIsPercentage s ↔
    s.metrics.totalPromptTokens = 0 ∨ s.metrics.totalCachedTokens ≤ s.metrics.totalPromptTokens := by
  change 0 ≤ s.metrics.prefixCacheHitRate ∧ s.metrics.prefixCacheHitRate ≤ 100 ↔ _
  rw [MetricsCollector.prefixCacheHitRate]
  split_ifs with hpos
  · have hq : (0 : ℚ) < s.metrics.totalPromptTokens := by exact_mod_cast hpos
    have hnn : (0 : ℚ) ≤ (s.metrics.totalCachedTokens : ℚ) / s.metrics.totalPromptTokens * 100 := by positivity
    have hle : (s.metrics.totalCachedTokens : ℚ) / s.metrics.totalPromptTokens * 100 ≤ 100 ↔
        s.metrics.totalCachedTokens ≤ s.metrics.totalPromptTokens := by
      rw [mul_le_iff_le_one_left (by norm_num), div_le_one hq, Nat.cast_le]
    rw [hle]
    constructor
    · exact fun h => Or.inr h.2
    · exact fun h => ⟨hnn, h.resolve_left (Nat.ne_of_gt hpos)⟩
  · simp only [le_refl, true_and]
    constructor
    · exact fun _ => Or.inl (Nat.eq_zero_of_not_pos hpos)
    · exact fun _ => by norm_num

def counted (s : EngineState ε) : List RequestId := s.metrics.finished.map (·.seqId.request)

def uncountedHits (S : Setup ε) (ops : List LLMEngine.Op) : ℕ :=
  untallied (hits S ops) (counted (LLMEngine.run S ops))

def countedMisses (S : Setup ε) (ops : List LLMEngine.Op) : ℕ :=
  ((LLMEngine.run S ops).metrics.finished.map
    (fun q => q.promptLength - tally (hits S ops) q.seqId.request)).sum

lemma counted_hit_le (ops : List LLMEngine.Op) {q : Sequence} (hq : q ∈ (LLMEngine.run S ops).metrics.finished) :
    tally (hits S ops) q.seqId.request ≤ q.promptLength := by
  have hledger := hitLedger_run S ops
  obtain ⟨sg, hsg, hm⟩ := (registry_run S ops).filed q (List.mem_of_mem_filter hq)
  have hserves := (serves_run S ops).2 _ sg (Or.inr (Or.inr (Or.inl hsg)))
  have hprompt := (finishedAlike_run S ops _ sg hsg q hm).1
  apply tally_le hledger.nodup
  intro e he hid
  obtain ⟨r, hr, hle⟩ := hledger.bounded e he
  rw [hid, hserves] at hr
  cases hr
  rw [Sequence.promptLength, hprompt]
  exact hle

lemma cached_le_iff (ops : List LLMEngine.Op) :
    (LLMEngine.run S ops).metrics.totalCachedTokens ≤ (LLMEngine.run S ops).metrics.totalPromptTokens ↔
      uncountedHits S ops ≤ countedMisses S ops := by
  have hnd : ((LLMEngine.run S ops).metrics.finished.map (·.seqId.request)).Nodup :=
    (registry_run S ops).nodup.sublist (List.filter_sublist.map _)
  rw [(hitLedger_run S ops).total]
  exact sum_le_iff_untallied hnd fun q hq => counted_hit_le ops hq

theorem hitRate_percentage_of_counted (S : Setup ε) (ops : List LLMEngine.Op)
    (hall : ∀ e ∈ hits S ops, e.2 ≠ 0 → e.1 ∈ counted (LLMEngine.run S ops)) :
    HitRateIsPercentage (LLMEngine.run S ops) := by
  have hnone : uncountedHits S ops = 0 := by
    apply List.sum_eq_zero
    intro n hn
    obtain ⟨e, he, rfl⟩ := List.mem_map.mp hn
    obtain ⟨hm, hout⟩ := List.mem_filter.mp he
    by_contra hne
    exact of_decide_eq_true hout (hall e hm hne)
  rw [isPercentage_iff, cached_le_iff, hnone]
  exact Or.inr (Nat.zero_le _)

def promptTwice : List LLMEngine.Op :=
  [.addRequest ['a', 'b'] 2 0, .step 0, .addRequest ['a', 'b'] 2 0, .step 0, .step 0, .step 0]

theorem hitRate_percentage_of_promptTwice : hits oneTokenSetup promptTwice = [(0, 0), (1, 2)] ∧
    HitRateIsPercentage (LLMEngine.run oneTokenSetup promptTwice) :=
  ⟨by decide +kernel, hitRate_percentage_of_counted oneTokenSetup promptTwice (by decide +kernel)⟩

theorem hitRate_two_hundred : ¬ ∀ (config : Config) (blockHash : List ℕ → ℤ) (ops : List LLMEngine.Op),
    HitRateIsPercentage (LLMEngine.run (fakeSetup config blockHash) ops) := by
  intro h
  have hrate := h oneTokenBlocks codeHash [.addRequest ['a', 'b'] 2 0, .step 0, .addRequest ['a', 'b'] 9 0,
    .addRequest ['a', 'b'] 9 0, .step 0, .step 0]
  revert hrate
  decide +kernel

end MiniVllm
