import MiniVllm.ExecutorProofs.TritonRuns
import MiniVllm.ServingProofs.Delivery
import MiniVllm.ServingProofs.EngineRuns
import MiniVllm.ServingProofs.Responses

/-! The responses and the streams of the server give the greedy continuation of each prompt. -/

namespace MiniVllm

open EngineCore ServingLayer

section Answers

variable {F H L : Type} {mc : ModelConfig} [Field F] {M : QwenModel F H L mc} {argmax : L → ℕ} {ε : Type}
  {S : Setup ε}

lemma GreedyAnswer.same {s t : EngineState ε} (h : SameEngine s t) {rid : RequestId} {request : List ℕ × SamplingParams}
    (hs : GreedyAnswer M argmax S s rid request) : GreedyAnswer M argmax S t rid request where
  running q hq := hs.running q (h.queue ▸ hq)
  ended sg hsg := hs.ended sg (h.queue ▸ hsg)
  text text htext := hs.text text (h.outputs ▸ htext)

/-- The texts of one call: a response has the whole continuation or nothing, and all of it unless its request was timed
out or rejected; a poll hands over the token that its count says. -/
def AnswersGreedily (M : QwenModel F H L mc) (argmax : L → ℕ) (S : Setup ε)
    (requests : List (List ℕ × SamplingParams)) (s : ServingState ε) : Call → Prop
  | .generate prompt maxTokens stream trackingId clock readings => ∀ response,
      (generate S s prompt maxTokens stream trackingId clock readings).1 = some (.ok response) →
        response.error = none → 1 ≤ maxTokens →
          let text := S.executor.detokenize (M.greedyOutputs argmax (S.executor.tokenize prompt) maxTokens.toNat)
          (response.text = [] ∨ response.text = text) ∧
            ((retains S s.engine.seqGroupCount).Loop S readings
              (generateGates S s prompt maxTokens stream trackingId clock).2.engine → response.text = text)
  | .pollStream rid trackingId genCount now now' => ∀ reply,
      (pollStream S s rid trackingId genCount now now').1 = .ok reply → reply.finished = false →
        genCount < reply.genCount → reply.genCount = genCount + 1 ∧ ∃ request token, requests[rid]? = some request ∧
          (M.greedyOutputs argmax request.1 (genCount + 1))[genCount]? = some token ∧
            reply.tokenText = S.executor.detokenize [token]
  | _ => True

lemma engineRun_concat (calls : List Call) (call : Call) :
    engineRun S (calls ++ [call]) = engineRun S calls ++ engineOps S (run S calls) call :=
  trace_concat _ calls call

lemma run_concat (calls : List Call) (call : Call) : run S (calls ++ [call]) = apply S (run S calls) call := by
  simp only [run, List.foldl_append, List.foldl_cons, List.foldl_nil]

lemma seqGroupCount_run (calls : List Call) :
    (run S calls).engine.seqGroupCount = (requestsOf S (engineRun S calls)).length := by
  rw [← (serves_run S _).1]
  exact (serving_refines_engine S calls).seqGroupCount

def AnswersAll (M : QwenModel F H L mc) (argmax : L → ℕ) (S : Setup ε) (calls : List Call) : Prop :=
  ∀ (rid : RequestId) request, (requestsOf S (engineRun S calls))[rid]? = some request →
    GreedyAnswer M argmax S (run S calls).engine rid request

lemma requests_generate {calls : List Call} {prompt : List Char} {maxTokens : ℤ} {stream : Bool}
    {trackingId : TrackingId} {clock : Clock} (readings : List ℚ) {engineRid : RequestId} {s' : ServingState ε}
    (h : generateGates S (run S calls) prompt maxTokens stream trackingId clock = (.ok engineRid, s')) :
    (requestsOf S (engineRun S (calls ++ [.generate prompt maxTokens stream trackingId clock readings])))[engineRid]? =
      some (S.executor.tokenize prompt, { maxTokens := maxTokens }) := by
  rcases generateGates_same _ prompt maxTokens trackingId clock stream h with ⟨response, hr, -⟩ | ⟨hr, -⟩
  · cases hr
  · obtain rfl := Except.ok.inj hr
    have hops : engineOps S (run S calls) (.generate prompt maxTokens stream trackingId clock readings) =
        .addRequest prompt maxTokens clock.arrival :: LLMEngine.stepsTaken S readings s'.engine := by
      rw [engineOps, h]
    rw [engineRun_concat, hops, requestsOf_append, seqGroupCount_run, List.getElem?_append_right le_rfl, Nat.sub_self]
    rfl

lemma requests_generateStream {calls : List Call} {prompt : List Char} {maxTokens : ℤ} {trackingId : TrackingId}
    {clock : Clock} {engineRid : RequestId} {tid : TrackingId}
    (h : (generateStream S (run S calls) prompt maxTokens trackingId clock).1 = .ok (engineRid, tid)) :
    (requestsOf S (engineRun S (calls ++ [.generateStream prompt maxTokens trackingId clock])))[engineRid]? =
      some (S.executor.tokenize prompt, { maxTokens := maxTokens }) := by
  have hops : engineOps S (run S calls) (.generateStream prompt maxTokens trackingId clock) =
      [.addRequest prompt maxTokens clock.arrival] := by
    rw [engineOps, h]
  rcases generateStream_same _ prompt maxTokens trackingId clock rfl with ⟨error, hr, -⟩ | ⟨hr, -⟩
  · cases hr.symm.trans h
  · obtain rfl : _ = engineRid := congrArg Prod.fst (Except.ok.inj (hr.symm.trans h))
    rw [engineRun_concat, hops, requestsOf_append, seqGroupCount_run, List.getElem?_append_right le_rfl, Nat.sub_self]
    rfl

lemma generate_greedy {calls : List Call} {prompt : List Char} {maxTokens : ℤ} {stream : Bool}
    {trackingId : TrackingId} {clock : Clock} {readings : List ℚ}
    (h : AnswersAll M argmax S (calls ++ [.generate prompt maxTokens stream trackingId clock readings])) :
    AnswersGreedily M argmax S (requestsOf S (engineRun S calls)) (run S calls)
      (.generate prompt maxTokens stream trackingId clock readings) := by
  intro response hreturn herror hmax text
  have hw := ServingLayer.wellFormed_run S calls
  have hgates := generateGates_spec (S := S) (run S calls) prompt maxTokens stream trackingId clock
  have hrequest := @requests_generate ε S calls prompt maxTokens stream trackingId clock readings
  rw [AnswersAll, run_concat, apply] at h
  generalize hs' : generate S (run S calls) prompt maxTokens stream trackingId clock readings = out at hreturn h
  obtain ⟨answer, s'⟩ := out
  obtain rfl : answer = some (.ok response) := hreturn
  cases hg : generateGates S (run S calls) prompt maxTokens stream trackingId clock with
  | mk r sg =>
  rw [hg] at hgates
  cases hgates with
  | refused response' _ hsome hcore =>
    simp only [generate, hg] at hs'
    cases hs'
    rw [herror] at hsome
    cases hsome
  | submitted s₁ hcheck hcore =>
    obtain ⟨outputs, hrun, htext⟩ := generate_returned hg hs'
    have hgreedy := (h _ _ (hrequest hg)).text
    have hcount : s₁.engine.seqGroupCount = (run S calls).engine.seqGroupCount := congrArg CoreState.seqGroupCount hcore
    have hws : WellFormed S (submit S s₁ prompt maxTokens clock).engine.core := by
      rw [← hcore] at hw
      exact submit_wellFormed hw prompt maxTokens clock
    have hlive : ¬ Dead (submit S s₁ prompt maxTokens clock).engine.queue (run S calls).engine.seqGroupCount := by
      rw [← hcount]
      exact fun hdead => submit_live s₁ prompt maxTokens clock hdead.waiting
    obtain ⟨rfl, -, -, hanswer⟩ := runUntilDone_answers (run S calls).engine.seqGroupCount readings hws hrun
    constructor
    · cases hout : s'.engine.outputs.get? (run S calls).engine.seqGroupCount with
      | none =>
        left
        rw [htext, hout, Option.getD_none]
      | some text' =>
        right
        rw [htext, hout, Option.getD_some]
        exact hgreedy text' hout hmax
    · intro hr
      obtain ⟨sg, q, -, -, -, hout⟩ := hanswer (Or.inl hlive) hr
      rw [htext, hout, Option.getD_some]
      exact hgreedy _ hout hmax

lemma requests_poll (calls : List Call) (rid : RequestId) (trackingId : TrackingId) (genCount : ℕ) (now now' : ℚ) :
    requestsOf S (engineRun S (calls ++ [.pollStream rid trackingId genCount now now'])) =
      requestsOf S (engineRun S calls) := by
  have hnone := requestsOf_engineOps S (run S calls) (.pollStream rid trackingId genCount now now')
  rw [engineRun_concat, requestsOf_append, List.subset_nil.mp hnone, List.append_nil]

lemma running_greedy {calls : List Call} (h : AnswersAll M argmax S calls) {rid : RequestId} {q : Sequence}
    (hq : (run S calls).engine.queue.runningSeq rid = some q) :
    ∃ request, (requestsOf S (engineRun S calls))[rid]? = some request ∧
      ∀ k ≤ q.outputTokenIds.length, q.outputTokenIds.take k = M.greedyOutputs argmax request.1 k := by
  have hsame := serving_refines_engine S calls
  have hq' := hq
  rw [hsame.queue] at hq'
  obtain ⟨sg, hsg, -⟩ := (MiniVllm.wellFormed_run S _).queue.runningSeq_group hq'
  have hserved := (serves_run S (engineRun S calls)).2 rid sg (Or.inr (Or.inl hsg))
  have hgreedy := (h rid _ hserved).running q hq
  refine ⟨_, hserved, fun k hk => ?_⟩
  have hfull := congrArg List.length hgreedy
  have htake := M.take_greedyOutputs argmax hfull.symm hk
  rwa [← hgreedy] at htake

lemma poll_greedy {calls : List Call} {rid : RequestId} {trackingId : TrackingId} {genCount : ℕ} {now now' : ℚ}
    (h : AnswersAll M argmax S (calls ++ [.pollStream rid trackingId genCount now now'])) :
    AnswersGreedily M argmax S (requestsOf S (engineRun S calls)) (run S calls)
      (.pollStream rid trackingId genCount now now') := by
  intro reply hreply hopen hmore
  have hpolls := pollStream_spec (ServingLayer.wellFormed_run S calls) rid trackingId genCount now now'
  have hrunning := @running_greedy _ _ _ _ _ _ _ _ _ _ h rid
  rw [run_concat, apply, requests_poll] at hrunning
  generalize pollStream S (run S calls) rid trackingId genCount now now' = out at hreply hpolls hrunning
  obtain ⟨r, s'⟩ := out
  obtain rfl : r = .ok reply := hreply
  cases hpolls with
  | finished => cases hopen
  | idle => exact absurd hmore (lt_irrefl _)
  | token result engine q hstep hgone hrun hdec hlt =>
    obtain ⟨request, hrequest, htake⟩ := hrunning hrun
    refine ⟨rfl, request, q.outputTokenIds[genCount], hrequest, ?_, rfl⟩
    rw [← htake _ hlt, List.getElem?_take_of_lt (Nat.lt_succ_self _), List.getElem?_eq_getElem hlt]

lemma answersGreedily_call {calls : List Call} {call : Call} (h : AnswersAll M argmax S (calls ++ [call])) :
    AnswersGreedily M argmax S (requestsOf S (engineRun S calls)) (run S calls) call := by
  cases call with
  | generate => exact generate_greedy h
  | pollStream => exact poll_greedy h
  | generateStream => trivial
  | closeStream => trivial
  | cancel => trivial
  | step => trivial
  | checkTimeouts => trivial

end Answers

structure GreedyView {F H L : Type} {mc : ModelConfig} [Field F] (M : QwenModel F H L mc) (argmax : L → ℕ) {ε : Type}
    (S : Setup ε) (requests : List (List ℕ × SamplingParams)) (rid : RequestId) (v : StreamView) : Prop where
  text : v.text = v.tokens.flatten
  tokens : ∃ request, requests[rid]? = some request ∧ v.tokens =
    (M.greedyOutputs argmax request.1 v.tokens.length).map (fun token => S.executor.detokenize [token])

namespace Clients

variable {F H L : Type} {mc : ModelConfig} [Field F] {M : QwenModel F H L mc} {argmax : L → ℕ} {ε : Type}
  {S : Setup ε}

def requestsAt (S : Setup ε) (actions : List Action) : List (List ℕ × SamplingParams) :=
  requestsOf S (engineRun S (serverRun S actions))

lemma requestsAt_mono {done actions : List Action} (h : done <+: actions) :
    requestsAt S done <+: requestsAt S actions := by
  obtain ⟨more, rfl⟩ := h
  have hserver : serverRun S (done ++ more) = serverRun S done ++ trace (apply S) serverCalls (run S done) more :=
    trace_append _ done more
  rw [requestsAt, requestsAt, hserver, engineRun, engineRun, trace_append, requestsOf_append]
  exact List.prefix_append _ _

lemma GreedyView.mono {requests requests' : List (List ℕ × SamplingParams)} {rid : RequestId} {v : StreamView}
    (h : GreedyView M argmax S requests rid v) (hmore : requests <+: requests') :
    GreedyView M argmax S requests' rid v := by
  obtain ⟨more, rfl⟩ := hmore
  obtain ⟨request, hrequest, htokens⟩ := h.tokens
  rw [← List.getElem?_append_left (List.getElem?_eq_some_iff.mp hrequest).1] at hrequest
  exact ⟨h.text, request, hrequest, htokens⟩

lemma GreedyView.of_running {actions : List Action} (h : AnswersAll M argmax S (serverRun S actions))
    {rid : RequestId} {v : StreamView} (hv : Delivering S (run S actions).server.engine.core rid v) {q : Sequence}
    (hq : (run S actions).server.engine.queue.runningSeq rid = some q) (hcount : v.genCount ≤ q.outputTokenIds.length) :
    GreedyView M argmax S (requestsAt S actions) rid v := by
  have htokens := (hv.running q hq).1
  rw [← run_server] at hq
  obtain ⟨request, hrequest, htake⟩ := running_greedy h hq
  have hlen : v.tokens.length = v.genCount := by
    rw [htokens, List.length_take, outputTexts, List.length_map, min_eq_left hcount]
  refine ⟨hv.text, request, hrequest, ?_⟩
  rw [hlen, ← htake _ hcount, List.map_take]
  exact htokens

def AllGreedy (M : QwenModel F H L mc) (argmax : L → ℕ) (S : Setup ε) (actions : List Action) : Prop :=
  ∀ rid v, (run S actions).streams.get? rid = some v → GreedyView M argmax S (requestsAt S actions) rid v

lemma run_concat (actions : List Action) (action : Action) :
    run S (actions ++ [action]) = apply S (run S actions) action := by
  simp only [run, List.foldl_append, List.foldl_cons, List.foldl_nil]

section Action

variable {actions : List Action} (hold : AllGreedy M argmax S actions)

include hold

lemma AllGreedy.poll {rid : RequestId} {now now' : ℚ}
    (h : AnswersAll M argmax S (serverRun S (actions ++ [.poll rid now now']))) :
    AllGreedy M argmax S (actions ++ [.poll rid now now']) := by
  obtain ⟨hw, -⟩ := allDelivering_run S actions
  have hdelivering := (allDelivering_run S (actions ++ [.poll rid now now'])).2
  have hown := @GreedyView.of_running _ _ _ _ _ _ _ _ _ _ h
  have hkept : ∀ r u, (run S actions).streams.get? r = some u →
      GreedyView M argmax S (requestsAt S (actions ++ [.poll rid now now'])) r u := fun r u hu =>
    GreedyView.mono (hold r u hu) (requestsAt_mono (List.prefix_append actions _))
  rw [AllGreedy]
  rw [run_concat, apply] at hdelivering hown ⊢
  cases hget : (run S actions).streams.get? rid with
  | none =>
    simp only [Clients.poll, hget]
    exact hkept
  | some v =>
  cases hv : v.finished with
  | true =>
    simp only [Clients.poll, hget, hv, if_true]
    exact hkept
  | false =>
  have hpolls := ServingLayer.pollStream_spec hw rid v.trackingId v.genCount now now'
  simp only [Clients.poll, hget, hv, Bool.false_eq_true, if_false] at hdelivering hown ⊢
  generalize ServingLayer.pollStream S (run S actions).server rid v.trackingId v.genCount now now' = out
    at hpolls hdelivering hown ⊢
  obtain ⟨r, server⟩ := out
  cases r with
  | error err => exact hkept
  | ok reply =>
    intro r u hu
    rcases Dict.get?_set_some hu with ⟨rfl, rfl⟩ | hother
    · cases hpolls with
      | finished =>
        rw [v.receive_last]
        exact ⟨(hkept r v hget).text, (hkept r v hget).tokens⟩
      | idle =>
        rw [v.receive_idle hv]
        exact hkept r v hget
      | token result engine q hstep hgone hrun hdec hlt =>
        exact hown (hdelivering r _ hu rfl) hrun hlt
    · exact hkept r u hother

lemma AllGreedy.call (call : Call) : AllGreedy M argmax S (actions ++ [.call call]) := by
  have hkept : ∀ r u, (run S actions).streams.get? r = some u →
      GreedyView M argmax S (requestsAt S (actions ++ [.call call])) r u := fun r u hu =>
    GreedyView.mono (hold r u hu) (requestsAt_mono (List.prefix_append actions _))
  intro r u hu
  rw [run_concat, apply] at hu
  cases call with
  | generateStream prompt maxTokens trackingId clock =>
    have hrequest := @requests_generateStream ε S (serverRun S actions) prompt maxTokens trackingId clock
    rw [run_server] at hrequest
    simp only [openStreams] at hu
    split at hu
    · exact hkept r u hu
    · rename_i rid tid hopens
      rcases Dict.get?_set_some hu with ⟨rfl, rfl⟩ | hother
      · refine ⟨rfl, (S.executor.tokenize prompt, { maxTokens := maxTokens }), ?_, rfl⟩
        have hserver : serverRun S (actions ++ [.call (.generateStream prompt maxTokens trackingId clock)]) =
            serverRun S actions ++ [.generateStream prompt maxTokens trackingId clock] := trace_concat _ actions _
        rw [requestsAt, hserver]
        exact hrequest hopens
      · exact hkept r u hother
  | _ => exact hkept r u hu

end Action

lemma allGreedy_run (actions : List Action)
    (h : ∀ done, done <+: actions → AnswersAll M argmax S (serverRun S done)) : AllGreedy M argmax S actions := by
  induction actions using List.reverseRecOn with
  | nil => exact fun rid v hv => by cases hv
  | append_singleton actions action ih =>
    have hold := ih fun done hdone => h done (hdone.trans (List.prefix_append _ _))
    cases action with
    | poll rid now now' => exact hold.poll (h _ List.prefix_rfl)
    | call call => exact hold.call call

end Clients

section Fits

variable {ε : Type} {S : Setup ε} {mc : ModelConfig}

lemma fitsModel_calls {calls : List Call} (h : ∀ call ∈ calls, ∀ r ∈ offers S call, FitsModel mc r.1 r.2) :
    ∀ r ∈ requestsOf S (engineRun S calls), FitsModel mc r.1 r.2 := by
  intro r hr
  obtain ⟨call, hcall, hoffer⟩ := requestsOf_engineRun S hr
  exact h call hcall r hoffer

lemma fitsModel_actions {actions : List Clients.Action}
    (h : ∀ action ∈ actions, ∀ r ∈ Clients.offers S action, FitsModel mc r.1 r.2) :
    ∀ r ∈ Clients.requestsAt S actions, FitsModel mc r.1 r.2 := by
  refine fitsModel_calls fun call hcall r hr => ?_
  obtain ⟨action, haction, hoffers⟩ := Clients.offers_serverRun S hcall
  exact h action haction r (hoffers ▸ hr)

end Fits

section Triton

variable {H L : Type} {mc : ModelConfig} (M : QwenModel ℝ H L mc) (argmax : L → ℕ) (tokenizer : Tokenizer)
  (config : Config) (blockHash : List ℕ → ℤ) (launches : ℕ → ModelInput → ℕ → LayerLaunch ℝ)

lemma triton_answersAll {M : QwenModel ℝ H L mc} {argmax : L → ℕ} {tokenizer : Tokenizer} {config : Config}
    {blockHash : List ℕ → ℤ} {launches : ℕ → ModelInput → ℕ → LayerLaunch ℝ}
    (hsupports : TritonSupports M config.blockSize)
    (hlaunches : ∀ n input, LaunchesComplete M input (launches n input)) (hoff : config.enablePrefixCaching = false)
    {calls : List Call} (hfits : ∀ r ∈ requestsOf (tritonSetup M argmax tokenizer config blockHash launches)
      (engineRun (tritonSetup M argmax tokenizer config blockHash launches) calls), FitsModel mc r.1 r.2) :
    AnswersAll M argmax (tritonSetup M argmax tokenizer config blockHash launches) calls := fun _ _ hr =>
  (triton_answers hsupports hlaunches hoff hfits hr).same (serving_refines_engine _ calls)

theorem triton_serves_greedily (hsupports : TritonSupports M config.blockSize)
    (hlaunches : ∀ n input, LaunchesComplete M input (launches n input)) (hoff : config.enablePrefixCaching = false)
    (calls : List Call) (call : Call)
    (hfits : ∀ r ∈ requestsOf (tritonSetup M argmax tokenizer config blockHash launches)
      (engineRun (tritonSetup M argmax tokenizer config blockHash launches) (calls ++ [call])), FitsModel mc r.1 r.2) :
    AnswersGreedily M argmax (tritonSetup M argmax tokenizer config blockHash launches)
      (requestsOf (tritonSetup M argmax tokenizer config blockHash launches)
        (engineRun (tritonSetup M argmax tokenizer config blockHash launches) calls))
      (run (tritonSetup M argmax tokenizer config blockHash launches) calls) call :=
  answersGreedily_call (triton_answersAll hsupports hlaunches hoff hfits)

def streamAndCancel : List Call :=
  [.generateStream ['a', 'b', 'c'] 2 7 {}, .pollStream 0 7 0 0 0, .generate ['e'] 4 false 3 {} [0], .cancel 0]

theorem triton_serves_greedily_after_cancel :
    AnswersGreedily wideModel (fun row => ⌊row⌋₊) wideSetup (requestsOf wideSetup (engineRun wideSetup streamAndCancel))
      (run wideSetup streamAndCancel) (.generate ['d'] 2 true 8 {} [0, 0, 0]) :=
  triton_serves_greedily wideModel (fun row => ⌊row⌋₊) charTokenizer coveredSeats codeHash
    (fun _ input _ => reversedLaunch wideConfig input) wideModel_supports
    (fun _ input _ _ => reversedLaunch_complete wideConfig input) rfl streamAndCancel
    (.generate ['d'] 2 true 8 {} [0, 0, 0]) (fitsModel_calls (by decide))

theorem triton_streams_greedily (hsupports : TritonSupports M config.blockSize)
    (hlaunches : ∀ n input, LaunchesComplete M input (launches n input)) (hoff : config.enablePrefixCaching = false)
    (actions : List Clients.Action)
    (hfits : ∀ r ∈ Clients.requestsAt (tritonSetup M argmax tokenizer config blockHash launches) actions,
      FitsModel mc r.1 r.2) :
    Clients.AllGreedy M argmax (tritonSetup M argmax tokenizer config blockHash launches) actions :=
  Clients.allGreedy_run actions fun _ hdone => triton_answersAll hsupports hlaunches hoff fun r hr =>
    hfits r ((Clients.requestsAt_mono hdone).subset hr)

def twoStreams : List Clients.Action :=
  [.call (.generateStream ['a', 'b', 'c'] 3 7 {}), .poll 0 0 0, .call (.generateStream ['d'] 2 8 {}), .poll 1 0 0,
    .poll 0 0 0, .poll 1 0 0]

theorem triton_streams_greedily_of_two_streams :
    Clients.AllGreedy wideModel (fun row => ⌊row⌋₊) wideSetup twoStreams :=
  triton_streams_greedily wideModel (fun row => ⌊row⌋₊) charTokenizer coveredSeats codeHash
    (fun _ input _ => reversedLaunch wideConfig input) wideModel_supports
    (fun _ input _ _ => reversedLaunch_complete wideConfig input) rfl twoStreams
    (fitsModel_actions (by decide))

end Triton

end MiniVllm
