import MiniVllm.EngineProofs.Refinement

/-! Every group of every pool serves the request that its id numbers. -/

namespace MiniVllm

open EngineCore

variable {ε : Type} (S : Setup ε)

def requestsOf (ops : List LLMEngine.Op) : List (List ℕ × SamplingParams) :=
  ops.filterMap (fun
    | .addRequest prompt maxNewTokens _ => some (S.executor.tokenize prompt, { maxTokens := maxNewTokens })
    | _ => none)

def InPools (qu : RequestQueue) (rid : RequestId) (sg : SequenceGroup) : Prop :=
  qu.waiting.get? rid = some sg ∨ qu.running.get? rid = some sg ∨ qu.finished.get? rid = some sg ∨
    qu.rejected.get? rid = some sg

def Serves (requests : List (List ℕ × SamplingParams)) (qu : RequestQueue) : Prop :=
  ∀ rid sg, InPools qu rid sg → requests[rid]? = some (sg.promptTokenIds, sg.samplingParams)

variable {S} {c : CallCondition ε} {s s' : CoreState ε} {requests : List (List ℕ × SamplingParams)}

lemma Transition.inPools (hw : WellFormed S s) (ht : Transition S c s s') (hn : s'.seqGroupCount = s.seqGroupCount)
    {rid : RequestId} {sg : SequenceGroup} (h : InPools s'.queue rid sg) :
    ∃ sg₀, InPools s.queue rid sg₀ ∧ sg.promptTokenIds = sg₀.promptTokenIds ∧
      sg.samplingParams = sg₀.samplingParams := by
  have hself : InPools s.queue rid sg → ∃ sg₀, InPools s.queue rid sg₀ ∧
      sg.promptTokenIds = sg₀.promptTokenIds ∧ sg.samplingParams = sg₀.samplingParams :=
    fun h => ⟨sg, h, rfl, rfl⟩
  cases ht with
  | submit => exact absurd hn (Nat.succ_ne_self _)
  | cleanup => exact hself h
  | ensure => exact hself h
  | retire sg₁ q status hrun hseqs =>
    rcases h with h | h | h | h
    · exact hself (Or.inl h)
    · exact hself (Or.inr (Or.inl (Dict.get?_pop_some h)))
    · rcases Dict.get?_set_some h with ⟨rfl, rfl⟩ | h
      · exact ⟨sg₁, Or.inr (Or.inl hrun), rfl, rfl⟩
      · exact hself (Or.inr (Or.inr (Or.inl h)))
    · exact hself (Or.inr (Or.inr (Or.inr h)))
  | withdraw sg₁ hwait =>
    rcases h with h | h | h | h
    · exact hself (Or.inl (Dict.get?_pop_some h))
    · exact hself (Or.inr (Or.inl h))
    · rcases Dict.get?_set_some h with ⟨rfl, rfl⟩ | h
      · exact hself (Or.inl hwait)
      · exact hself (Or.inr (Or.inr (Or.inl h)))
    · exact hself (Or.inr (Or.inr (Or.inr h)))
  | reject sg₁ hwait =>
    rcases h with h | h | h | h
    · exact hself (Or.inl (Dict.get?_pop_some h))
    · exact hself (Or.inr (Or.inl h))
    · exact hself (Or.inr (Or.inr (Or.inl h)))
    · rcases Dict.get?_set_some h with ⟨rfl, rfl⟩ | h
      · exact hself (Or.inl hwait)
      · exact hself (Or.inr (Or.inr (Or.inr h)))
  | refile sg₁ hrej =>
    rcases h with h | h | h | h
    · exact hself (Or.inl h)
    · exact hself (Or.inr (Or.inl h))
    · rcases Dict.get?_set_some h with ⟨rfl, rfl⟩ | h
      · exact hself (Or.inr (Or.inr (Or.inr hrej)))
      · exact hself (Or.inr (Or.inr (Or.inl h)))
    · exact hself (Or.inr (Or.inr (Or.inr h)))
  | admission sg₁ hwait =>
    rcases h with h | h | h | h
    · exact hself (Or.inl (Dict.get?_pop_some h))
    · rcases Dict.get?_set_some h with ⟨rfl, rfl⟩ | h
      · exact ⟨sg₁, Or.inl hwait, rfl, rfl⟩
      · exact hself (Or.inr (Or.inl h))
    · exact hself (Or.inr (Or.inr (Or.inl h)))
    · exact hself (Or.inr (Or.inr (Or.inr h)))
  | batch prefill decode hready =>
    obtain ⟨r, queue, bm, hbatch, hspec⟩ := hw.runBatch_cases hready
    simp only [hbatch] at h
    cases hspec with
    | failed => exact hself h
    | done output x _ hexec hwt hfn hrj hrun =>
      rcases h with h | h | h | h
      · exact hself (Or.inl (hwt ▸ h))
      · rw [hrun] at h
        obtain ⟨sg₀, hsg₀, rfl⟩ := Option.map_eq_some_iff.mp h
        exact ⟨sg₀, Or.inr (Or.inl hsg₀), rfl, rfl⟩
      · exact hself (Or.inr (Or.inr (Or.inl (hfn ▸ h))))
      · exact hself (Or.inr (Or.inr (Or.inr (hrj ▸ h))))

lemma Serves.reaches (hw : WellFormed S s) (h : Serves requests s.queue) (hr : Reaches S c s s')
    (hn : s'.seqGroupCount = s.seqGroupCount) : Serves requests s'.queue := by
  induction hr with
  | refl => exact h
  | tail hr ht ih =>
    have h₁ := Reaches.seqGroupCount_le hr
    have h₂ := Reaches.seqGroupCount_le (Reaches.single S c ht)
    have ih' := ih (by omega)
    intro rid sg hp
    obtain ⟨sg₀, hp₀, hprompt, hparams⟩ := ht.inPools (hw.reaches hr) (by omega) hp
    rw [hprompt, hparams]
    exact ih' rid sg₀ hp₀

lemma Serves.running_nonempty (hne : ∀ r ∈ requests, r.1 ≠ []) {qu : RequestQueue} (h : Serves requests qu)
    {rid : RequestId} {sg : SequenceGroup} (hsg : qu.running.get? rid = some sg) : sg.promptTokenIds ≠ [] :=
  hne _ (List.mem_of_getElem? (h rid sg (Or.inr (Or.inl hsg))))

section Count

variable (S)

lemma checkTimeouts_seqGroupCount (s : EngineState ε) (now : ℚ) :
    (checkTimeouts S s now).seqGroupCount = s.seqGroupCount := by
  obtain ⟨queue, bm, reports, timeouts, h⟩ := checkTimeouts_frame S s now
  rw [h]

lemma cancelRequest_seqGroupCount (s : EngineState ε) (rid : RequestId) :
    (cancelRequest S s rid).2.seqGroupCount = s.seqGroupCount := by
  obtain ⟨queue, bm, reports, cancelled, h⟩ := cancelRequest_frame S s rid
  rw [h]

lemma cleanupFinished_frame (s : EngineState ε) (result : ScheduleResult) :
    (cleanupFinished S s result).queue = s.queue ∧
      (cleanupFinished S s result).seqGroupCount = s.seqGroupCount ∧
      (cleanupFinished S s result).outputs = s.outputs := by
  obtain ⟨bm, reports, h⟩ := cleanupFinished_reporting S s result
  rw [h]
  exact ⟨rfl, rfl, rfl⟩

lemma recordStep_queue (s : EngineState ε) (result : ScheduleResult) :
    (recordStep (cleanupFinished S s result) result).queue = s.queue :=
  (cleanupFinished_frame S s result).1

lemma step_seqGroupCount (s : EngineState ε) (now : ℚ) :
    (EngineCore.step S s now).2.seqGroupCount = s.seqGroupCount := by
  obtain ⟨queue, bm, metrics, -, h⟩ := step_frame S s now
  rw [h]

lemma apply_serves {s : EngineState ε} (hw : WellFormed S s.core) (op : LLMEngine.Op)
    (hlen : s.seqGroupCount = requests.length) (h : Serves requests s.queue) :
    (LLMEngine.apply S s op).seqGroupCount = (requests ++ requestsOf S [op]).length ∧
      Serves (requests ++ requestsOf S [op]) (LLMEngine.apply S s op).queue := by
  have hkeep : requestsOf S [op] = [] → (LLMEngine.apply S s op).seqGroupCount = s.seqGroupCount →
      Reaches S {} s.core (LLMEngine.apply S s op).core →
      (LLMEngine.apply S s op).seqGroupCount = (requests ++ requestsOf S [op]).length ∧
        Serves (requests ++ requestsOf S [op]) (LLMEngine.apply S s op).queue := by
    intro hnil hcount hreach
    rw [hnil, List.append_nil]
    exact ⟨hcount.trans hlen, Serves.reaches hw h hreach hcount⟩
  cases op with
  | addRequest prompt maxNewTokens now =>
    refine ⟨by simp [LLMEngine.apply, LLMEngine.addRequest, requestsOf, hlen], fun rid sg hp => ?_⟩
    have hold : InPools s.queue rid sg → (requests ++ requestsOf S [.addRequest prompt maxNewTokens now])[rid]? =
        some (sg.promptTokenIds, sg.samplingParams) := by
      intro hp
      have hr := h rid sg hp
      rw [List.getElem?_append_left (List.getElem?_eq_some_iff.mp hr).1, hr]
    rcases hp with hp | hp
    · rcases Dict.get?_set_some hp with ⟨rfl, rfl⟩ | hp
      · simp [requestsOf, hlen]
      · exact hold (Or.inl hp)
    · exact hold (Or.inr hp)
  | cancelRequest rid =>
    exact hkeep rfl (cancelRequest_seqGroupCount S s rid) (cancelRequest_refines hw rid)
  | checkTimeouts now =>
    exact hkeep rfl (checkTimeouts_seqGroupCount S s now) (checkTimeouts_refines hw now)
  | step now =>
    refine hkeep rfl ?_ (apply_refines hw (step_true s now))
    have hstep := step_seqGroupCount S s now
    have hcapture : ∀ (s : EngineState ε) result, (LLMEngine.captureOutputs S s result).seqGroupCount =
        s.seqGroupCount := fun s result => congrArg CoreState.seqGroupCount (captureOutputs_core s result)
    simp only [LLMEngine.apply, LLMEngine.step]
    split
    · rename_i err s₁ he
      rwa [he] at hstep
    · rename_i result s₁ he
      rw [he] at hstep
      exact (hcapture s₁ result).trans hstep

lemma requestsOf_append (ops more : List LLMEngine.Op) :
    requestsOf S (ops ++ more) = requestsOf S ops ++ requestsOf S more := by
  simp only [requestsOf, List.filterMap_append]

lemma LLMEngine.run_concat (ops : List LLMEngine.Op) (op : LLMEngine.Op) :
    LLMEngine.run S (ops ++ [op]) = LLMEngine.apply S (LLMEngine.run S ops) op := by
  simp only [LLMEngine.run, List.foldl_append, List.foldl_cons, List.foldl_nil]

theorem serves_run (ops : List LLMEngine.Op) :
    (LLMEngine.run S ops).seqGroupCount = (requestsOf S ops).length ∧
      Serves (requestsOf S ops) (LLMEngine.run S ops).queue := by
  induction ops using List.reverseRecOn with
  | nil =>
    refine ⟨rfl, fun rid sg h => ?_⟩
    rcases h with h | h | h | h <;> cases h
  | append_singleton ops op ih =>
    rw [LLMEngine.run_concat, requestsOf_append]
    exact apply_serves S (wellFormed_run S ops) op ih.1 ih.2

end Count

lemma live_request (S : Setup ε) (ops : List LLMEngine.Op) {q : Sequence}
    (hq : q ∈ (LLMEngine.run S ops).queue.liveSeqs) :
    (requestsOf S ops)[q.seqId.request]? = some (q.promptTokenIds, q.samplingParams) := by
  have hqueue := (wellFormed_run S ops).queue
  obtain ⟨sg, hsg, -, -, hl⟩ := hqueue.runningSeq_group (hqueue.mem_liveSeqs.mp hq)
  rw [hl.prompt, hl.params]
  exact (serves_run S ops).2 _ sg (Or.inr (Or.inl hsg))

def FinishedAlike (s : CoreState ε) : Prop :=
  ∀ rid sg, s.queue.finished.get? rid = some sg → ∀ q ∈ sg.seqs,
    q.promptTokenIds = sg.promptTokenIds ∧ q.samplingParams = sg.samplingParams

theorem finishedAlike_run (S : Setup ε) (ops : List LLMEngine.Op) : FinishedAlike (LLMEngine.run S ops).core := by
  refine run_invariant (c := {}) (fun rid sg h => by cases h) (fun s s' hw h ht => ?_)
    (run_refines (runFrom_true _ ops))
  cases ht with
  | submit => exact h
  | cleanup => exact h
  | reject => exact h
  | admission => exact h
  | ensure => exact h
  | retire sg q status hrun hseqs =>
    intro rid sg' hsg' q' hq'
    rcases Dict.get?_set_some hsg' with ⟨-, rfl⟩ | hold
    · obtain ⟨-, -, q₀, hq₀, hl⟩ := hw.queue.running _ sg hrun
      obtain rfl : q₀ = q := by simpa [hq₀] using hseqs
      obtain rfl : q' = { q₀ with status := status } := by simpa using hq'
      exact ⟨hl.prompt, hl.params⟩
    · exact h rid sg' hold q' hq'
  | withdraw sg hwait =>
    intro rid sg' hsg' q' hq'
    rcases Dict.get?_set_some hsg' with ⟨-, rfl⟩ | hold
    · rw [(hw.queue.waiting _ _ hwait).2.2] at hq'
      cases hq'
    · exact h rid sg' hold q' hq'
  | refile sg hrej =>
    intro rid sg' hsg' q' hq'
    rcases Dict.get?_set_some hsg' with ⟨-, rfl⟩ | hold
    · rw [(hw.queue.rejected _ _ hrej).2.2] at hq'
      cases hq'
    · exact h rid sg' hold q' hq'
  | batch prefill decode hready =>
    obtain ⟨r, queue, bm, hbatch, hspec⟩ := hw.runBatch_cases hready
    simp only [hbatch]
    cases hspec with
    | failed => exact h
    | done output x _ hexec hwt hfn =>
      intro rid sg hsg
      rw [hfn] at hsg
      exact h rid sg hsg

end MiniVllm
