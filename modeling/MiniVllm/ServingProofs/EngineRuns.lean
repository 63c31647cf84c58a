import MiniVllm.EngineProofs.Metrics
import MiniVllm.Library.Traces
import MiniVllm.Serving.Clients
import MiniVllm.ServingProofs.Calls

/-! The run of the engine under a run of the serving layer, and the run of that under its clients. -/

namespace MiniVllm

namespace LLMEngine

variable {ε : Type} (S : Setup ε)

def stepsTaken : List ℚ → EngineState ε → List Op
  | [], _ => []
  | now :: readings, s =>
    .step now :: match step S s now with
      | (.error _, _) => []
      | (.ok _, s) => if s.queue.numWaiting = 0 ∧ s.queue.numRunning = 0 then [] else stepsTaken readings s

lemma stepsTaken_engine (readings : List ℚ) (s : EngineState ε) :
    (stepsTaken S readings s).foldl (apply S) s = (runUntilDone S readings s).2 := by
  induction readings generalizing s with
  | nil => rfl
  | cons now readings ih =>
    have hone : apply S s (.step now) = (step S s now).2 := rfl
    rw [stepsTaken, runUntilDone, List.foldl_cons, hone]
    rcases step S s now with ⟨err | result, s₁⟩
    · rfl
    · dsimp only
      split_ifs
      · rfl
      · exact ih s₁

end LLMEngine

namespace ServingLayer

variable {ε : Type} (S : Setup ε)

def engineOps (s : ServingState ε) : Call → List LLMEngine.Op
  | .generate prompt maxTokens stream trackingId clock readings =>
    match generateGates S s prompt maxTokens stream trackingId clock with
    | (.error _, _) => []
    | (.ok _, s) => .addRequest prompt maxTokens clock.arrival :: LLMEngine.stepsTaken S readings s.engine
  | .generateStream prompt maxTokens trackingId clock =>
    match (generateStream S s prompt maxTokens trackingId clock).1 with
    | .error _ => []
    | .ok _ => [.addRequest prompt maxTokens clock.arrival]
  | .pollStream _ _ _ now now' =>
    .step now :: match (LLMEngine.step S s.engine now).1 with
      | .error _ => []
      | .ok _ => [.checkTimeouts now']
  | .closeStream engineRid _ finished =>
    if finished = true ∨ engineRid ∈ s.finishedRequests then [] else [.cancelRequest engineRid]
  | .cancel rid => [.cancelRequest rid]
  | .step now => [.step now]
  | .checkTimeouts now => [.checkTimeouts now]

def engineRun (calls : List Call) : List LLMEngine.Op := trace (apply S) (engineOps S) (initial S) calls

section Gates

variable {S} (s : ServingState ε) (prompt : List Char) (maxTokens : ℤ) (trackingId : TrackingId) (clock : Clock)

lemma generateGates_same (stream : Bool) {r : Except ServingResponse RequestId} {s' : ServingState ε}
    (h : generateGates S s prompt maxTokens stream trackingId clock = (r, s')) :
    (∃ response, r = .error response ∧ SameEngine s.engine s'.engine) ∨
      r = .ok s.engine.seqGroupCount ∧
        SameEngine (LLMEngine.addRequest S s.engine prompt maxTokens clock.arrival) s'.engine := by
  rw [generateGates] at h
  split at h
  · cases h
    exact .inl ⟨_, rfl, _, rfl⟩
  · split at h
    · cases h
      exact .inl ⟨_, rfl, _, rfl⟩
    · dsimp only at h
      split_ifs at h
      · cases h
        exact .inl ⟨_, rfl, _, rfl⟩
      · cases h
        exact .inr ⟨rfl, _, rfl⟩
      · cases h
        exact .inl ⟨_, rfl, _, rfl⟩
      · cases h
        exact .inr ⟨rfl, _, rfl⟩

lemma generateStream_same {r : Except (String × ErrorCode) (RequestId × TrackingId)} {s' : ServingState ε}
    (h : generateStream S s prompt maxTokens trackingId clock = (r, s')) :
    (∃ error, r = .error error ∧ SameEngine s.engine s'.engine) ∨
      r = .ok (s.engine.seqGroupCount, trackingId) ∧
        SameEngine (LLMEngine.addRequest S s.engine prompt maxTokens clock.arrival) s'.engine := by
  rw [generateStream] at h
  split at h
  · cases h
    exact .inl ⟨_, rfl, _, rfl⟩
  · split at h
    · cases h
      exact .inl ⟨_, rfl, _, rfl⟩
    · dsimp only at h
      split at h
      · cases h
        exact .inl ⟨_, rfl, _, rfl⟩
      · cases h
        exact .inr ⟨rfl, _, rfl⟩

end Gates

lemma cancel_engine (s : ServingState ε) (rid : RequestId) :
    (cancel S s rid).2.engine = (EngineCore.cancelRequest S s.engine rid).2 := by
  rw [cancel]
  split <;> rename_i he <;> rw [he]

lemma closeStream_engine (s : ServingState ε) (engineRid : RequestId) (trackingId : TrackingId) (finished : Bool) :
    (closeStream S s engineRid trackingId finished).engine =
      if finished = true ∨ engineRid ∈ s.finishedRequests then s.engine
      else (EngineCore.cancelRequest S s.engine engineRid).2 := by
  cases finished with
  | true => simp [closeStream]
  | false =>
    by_cases hmem : engineRid ∈ s.finishedRequests
    · simp [closeStream, abort, hmem]
    · simp [closeStream, abort, hmem, cancel_engine]

theorem apply_same (s : ServingState ε) (call : Call) :
    SameEngine ((engineOps S s call).foldl (LLMEngine.apply S) s.engine) (apply S s call).engine := by
  cases call with
  | generate prompt maxTokens stream trackingId clock readings =>
    rw [engineOps, apply]
    cases hg : generateGates S s prompt maxTokens stream trackingId clock with
    | mk r s' =>
    rcases generateGates_same s prompt maxTokens trackingId clock stream hg with ⟨response, rfl, h⟩ | ⟨rfl, h⟩
    · simp only [generate, hg]
      exact h
    · rw [generate_engine readings hg, ← LLMEngine.stepsTaken_engine]
      exact h.run S _
  | generateStream prompt maxTokens trackingId clock =>
    rw [engineOps, apply]
    cases hg : generateStream S s prompt maxTokens trackingId clock with
    | mk r s' =>
    rcases generateStream_same s prompt maxTokens trackingId clock hg with ⟨error, rfl, h⟩ | ⟨rfl, h⟩
    · exact h
    · exact h
  | pollStream engineRid trackingId genCount now now' =>
    have hone : LLMEngine.apply S s.engine (.step now) = (LLMEngine.step S s.engine now).2 := rfl
    rw [engineOps, apply, List.foldl_cons, hone]
    cases hstep : LLMEngine.step S s.engine now with
    | mk r engine =>
    cases r with
    | error err =>
      simp only [pollStream, hstep]
      exact .refl engine
    | ok result =>
      rw [pollStream_engine s engineRid trackingId genCount now now' hstep]
      exact .refl _
  | closeStream engineRid trackingId finished =>
    rw [engineOps, apply, closeStream_engine]
    split_ifs
    · exact .refl _
    · exact .refl _
  | cancel rid =>
    rw [apply, cancel_engine]
    exact .refl _
  | step now => exact .refl _
  | checkTimeouts now => exact .refl _

/-- The gates, the streams and the counters in front of the engine change nothing in it but its metrics. -/
theorem serving_refines_engine (calls : List Call) :
    SameEngine (LLMEngine.run S (engineRun S calls)) (run S calls).engine :=
  trace_refines (R := fun engine (s : ServingState ε) => SameEngine engine s.engine)
    (fun s _ call h => (h.run S _).trans (apply_same S s call)) (.refl (LLMEngine.initial S)) calls

def offers : Call → List (List ℕ × SamplingParams)
  | .generate prompt maxTokens _ _ _ _ => [(S.executor.tokenize prompt, { maxTokens := maxTokens })]
  | .generateStream prompt maxTokens _ _ => [(S.executor.tokenize prompt, { maxTokens := maxTokens })]
  | _ => []

lemma requestsOf_stepsTaken (readings : List ℚ) (s : EngineState ε) :
    requestsOf S (LLMEngine.stepsTaken S readings s) = [] := by
  induction readings generalizing s with
  | nil => rfl
  | cons now readings ih =>
    rw [LLMEngine.stepsTaken, requestsOf, List.filterMap_cons]
    rcases LLMEngine.step S s now with ⟨err | result, s₁⟩
    · rfl
    · dsimp only
      split_ifs
      · rfl
      · exact ih s₁

lemma requestsOf_engineOps (s : ServingState ε) (call : Call) : requestsOf S (engineOps S s call) ⊆ offers S call := by
  cases call with
  | generate prompt maxTokens stream trackingId clock readings =>
    rw [engineOps]
    split
    · exact List.nil_subset _
    · rename_i s' _
      have hsteps := requestsOf_stepsTaken S readings s'.engine
      rw [requestsOf] at hsteps ⊢
      rw [List.filterMap_cons, hsteps]
      exact List.Subset.refl _
  | generateStream prompt maxTokens trackingId clock =>
    rw [engineOps]
    split
    · exact List.nil_subset _
    · exact List.Subset.refl _
  | pollStream engineRid trackingId genCount now now' =>
    rw [engineOps]
    split <;> exact List.nil_subset _
  | closeStream engineRid trackingId finished =>
    rw [engineOps]
    split_ifs <;> exact List.nil_subset _
  | cancel rid => exact List.nil_subset _
  | step now => exact List.nil_subset _
  | checkTimeouts now => exact List.nil_subset _

lemma requestsOf_engineRun {calls : List Call} {request : List ℕ × SamplingParams}
    (h : request ∈ requestsOf S (engineRun S calls)) : ∃ call ∈ calls, request ∈ offers S call := by
  obtain ⟨op, hop, hadd⟩ := List.mem_filterMap.mp h
  obtain ⟨s, call, hcall, hemit⟩ := mem_trace hop
  exact ⟨call, hcall, requestsOf_engineOps S s call (List.mem_filterMap.mpr ⟨op, hemit, hadd⟩)⟩

end ServingLayer

namespace Clients

variable {ε : Type} (S : Setup ε)

def serverCalls (s : ClientState ε) : Action → List ServingLayer.Call
  | .poll rid now now' =>
    match s.streams.get? rid with
    | none => []
    | some v => if v.finished then [] else [.pollStream rid v.trackingId v.genCount now now']
  | .call call => [call]

def serverRun (actions : List Action) : List ServingLayer.Call :=
  trace (apply S) (serverCalls) { server := ServingLayer.initial S } actions

lemma apply_server (s : ClientState ε) (action : Action) :
    (serverCalls s action).foldl (ServingLayer.apply S) s.server = (apply S s action).server := by
  cases action with
  | call call => rfl
  | poll rid now now' =>
    rw [serverCalls, apply, poll]
    cases s.streams.get? rid with
    | none => rfl
    | some v =>
      dsimp only
      split_ifs
      · rfl
      · rw [List.foldl_cons, List.foldl_nil, ServingLayer.apply]
        split <;> rename_i he <;> rw [he]

theorem run_server (actions : List Action) : ServingLayer.run S (serverRun S actions) = (run S actions).server :=
  trace_refines (f := apply S) (g := ServingLayer.apply S) (s := { server := ServingLayer.initial S })
    (R := fun server (s : ClientState ε) => server = s.server) (fun s server action h => by rw [h, apply_server]) rfl
    actions

def offers : Action → List (List ℕ × SamplingParams)
  | .poll _ _ _ => []
  | .call call => ServingLayer.offers S call

lemma offers_serverRun {actions : List Action} {call : ServingLayer.Call} (hcall : call ∈ serverRun S actions) :
    ∃ action ∈ actions, ServingLayer.offers S call = offers S action := by
  obtain ⟨s, action, haction, hmem⟩ := mem_trace hcall
  refine ⟨action, haction, ?_⟩
  cases action with
  | call call' =>
    obtain rfl := List.mem_singleton.mp hmem
    rfl
  | poll rid now now' =>
    rw [serverCalls] at hmem
    split at hmem
    · cases hmem
    · split_ifs at hmem
      · cases hmem
      · obtain rfl := List.mem_singleton.mp hmem
        rfl

end Clients

end MiniVllm
