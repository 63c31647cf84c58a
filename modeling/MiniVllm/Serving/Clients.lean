import MiniVllm.Serving.ApiServer

/-! The clients of the streams: each hands back the `gen_count` that it last received, as `generate_stream_safe` does. -/

namespace MiniVllm

/-- What a stream has received; `tokens` are the texts of the polls that moved its count without ending it. -/
structure StreamView where
  trackingId : TrackingId
  genCount : ℕ := 0
  text : List Char := []
  tokens : List (List Char) := []
  finished : Bool := false
  deriving DecidableEq

namespace StreamView

def receive (v : StreamView) (reply : PollReply) : StreamView :=
  { v with
    genCount := reply.genCount
    text := v.text ++ reply.tokenText
    tokens := if reply.finished = false ∧ v.genCount < reply.genCount then v.tokens ++ [reply.tokenText] else v.tokens
    finished := reply.finished }

variable (v : StreamView) (genCount : ℕ) (text : List Char)

lemma receive_last (status : Option Status) :
    v.receive ⟨[], genCount, true, status⟩ = { v with genCount := genCount, finished := true } := by
  simp [receive]

lemma receive_token : v.receive ⟨text, v.genCount + 1, false, none⟩ =
    ⟨v.trackingId, v.genCount + 1, v.text ++ text, v.tokens ++ [text], false⟩ := by
  simp [receive]

lemma receive_idle (hv : v.finished = false) : v.receive ⟨[], v.genCount, false, none⟩ = v := by
  simp [receive, ← hv]

end StreamView

structure ClientState (ε : Type) where
  server : ServingState ε
  streams : Dict RequestId StreamView := .empty

namespace Clients

variable {ε : Type} (S : Setup ε)

inductive Action
  | poll (rid : RequestId) (now now' : ℚ)
  | call (call : ServingLayer.Call)

def poll (s : ClientState ε) (rid : RequestId) (now now' : ℚ) : ClientState ε :=
  match s.streams.get? rid with
  | none => s
  | some v =>
    if v.finished then s
    else
      match ServingLayer.pollStream S s.server rid v.trackingId v.genCount now now' with
      | (.error _, server) => { s with server := server }
      | (.ok reply, server) => ⟨server, s.streams.set rid (v.receive reply)⟩

def openStreams (s : ClientState ε) : ServingLayer.Call → Dict RequestId StreamView
  | .generateStream prompt maxTokens trackingId clock =>
    match (ServingLayer.generateStream S s.server prompt maxTokens trackingId clock).1 with
    | .error _ => s.streams
    | .ok (rid, trackingId) => s.streams.set rid { trackingId := trackingId }
  | _ => s.streams

def apply (s : ClientState ε) : Action → ClientState ε
  | .poll rid now now' => poll S s rid now now'
  | .call call => ⟨ServingLayer.apply S s.server call, openStreams S s call⟩

def run (actions : List Action) : ClientState ε := actions.foldl (apply S) { server := ServingLayer.initial S }

end Clients

end MiniVllm
