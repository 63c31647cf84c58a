import MiniVllm.Serving.ApiServer

/-! The generators of `generate_stream_safe`, resumed and closed in any order beside the other calls. -/

namespace MiniVllm

/-- Where a generator stands between two calls of its consumer; `finished` is its local variable. -/
inductive Generator
  | created (prompt : List Char) (maxTokens : ℤ)
  | refused
  | polling (engineRid : RequestId) (trackingId : TrackingId) (genCount : ℕ) (finished : Bool)
  | closed
  deriving DecidableEq

inductive Outcome
  | suspends (generator : Generator)
  | leaves (engineRid : RequestId) (trackingId : TrackingId) (finished : Bool)
  | ends
  deriving DecidableEq

namespace Generator

variable {ε : Type} (S : Setup ε) (s : ServingState ε)

def poll (engineRid : RequestId) (trackingId : TrackingId) (genCount : ℕ) (now now' : ℚ) :
    Outcome × ServingState ε :=
  match ServingLayer.pollStream S s engineRid trackingId genCount now now' with
  | (.error _, s) => (.leaves engineRid trackingId false, s)
  | (.ok reply, s) => (.suspends (.polling engineRid trackingId reply.genCount reply.finished), s)

def resume (trackingId : TrackingId) (clock : Clock) (now now' : ℚ) : Generator → Outcome × ServingState ε
  | created prompt maxTokens =>
    match ServingLayer.generateStream S s prompt maxTokens trackingId clock with
    | (.error _, s) => (.suspends refused, s)
    | (.ok (engineRid, trackingId), s) => poll S s engineRid trackingId 0 now now'
  | refused => (.ends, s)
  | polling engineRid trackingId genCount finished =>
    if finished then (.leaves engineRid trackingId true, s)
    else poll S s engineRid trackingId genCount now now'
  | closed => (.ends, s)

/-- `close`: the `GeneratorExit` at a `yield` of the loop enters the `finally`. -/
def interrupt : Generator → Outcome
  | polling engineRid trackingId _ finished => .leaves engineRid trackingId finished
  | _ => .ends

def settle : Outcome → Generator × ServingState ε
  | .suspends g => (g, s)
  | .leaves engineRid trackingId finished => (closed, ServingLayer.closeStream S s engineRid trackingId finished)
  | .ends => (closed, s)

end Generator

structure Sessions (ε : Type) where
  server : ServingState ε
  generators : Dict ℕ Generator := .empty
  streams : Dict RequestId (TrackingId × Bool) := .empty

namespace Sessions

variable {ε : Type} (S : Setup ε)

inductive Event
  | create (gid : ℕ) (prompt : List Char) (maxTokens : ℤ)
  | next (gid : ℕ) (trackingId : TrackingId) (clock : Clock) (now now' : ℚ)
  | close (gid : ℕ)
  | generate (prompt : List Char) (maxTokens : ℤ) (stream : Bool) (trackingId : TrackingId) (clock : Clock)
      (readings : List ℚ)
  | generateStream (prompt : List Char) (maxTokens : ℤ) (trackingId : TrackingId) (clock : Clock)
  | pollStream (engineRid : RequestId) (genCount : ℕ) (now now' : ℚ)
  | cancel (rid : RequestId)
  | step (now : ℚ)
  | checkTimeouts (now : ℚ)

variable (x : Sessions ε)

def withServer (server : ServingState ε) : Sessions ε := { x with server := server }

def settled (gid : ℕ) (result : Outcome × ServingState ε) : Sessions ε :=
  { x with
    server := (Generator.settle S result.2 result.1).2
    generators := x.generators.set gid (Generator.settle S result.2 result.1).1 }

def poll (engineRid : RequestId) (stream : TrackingId × Bool) (genCount : ℕ) (now now' : ℚ) : Sessions ε :=
  match ServingLayer.pollStream S x.server engineRid stream.1 genCount now now' with
  | (.error _, server) => { x with server := server }
  | (.ok reply, server) =>
    { x with server := server, streams := x.streams.set engineRid (stream.1, stream.2 || reply.finished) }

def openStream (prompt : List Char) (maxTokens : ℤ) (trackingId : TrackingId) (clock : Clock) : Sessions ε :=
  match ServingLayer.generateStream S x.server prompt maxTokens trackingId clock with
  | (.error _, server) => { x with server := server }
  | (.ok (engineRid, trackingId), server) =>
    { x with server := server, streams := x.streams.set engineRid (trackingId, false) }

/-- Clients poll the streams that they were given, with any count; a name in use is not given to another generator. -/
def apply : Event → Sessions ε
  | .create gid prompt maxTokens =>
    if x.generators.contains gid then x
    else { x with generators := x.generators.set gid (.created prompt maxTokens) }
  | .next gid trackingId clock now now' =>
    match x.generators.get? gid with
    | none => x
    | some g => x.settled S gid (Generator.resume S x.server trackingId clock now now' g)
  | .close gid =>
    match x.generators.get? gid with
    | none => x
    | some g => x.settled S gid (g.interrupt, x.server)
  | .generate prompt maxTokens stream trackingId clock readings =>
    x.withServer (ServingLayer.generate S x.server prompt maxTokens stream trackingId clock readings).2
  | .generateStream prompt maxTokens trackingId clock => x.openStream S prompt maxTokens trackingId clock
  | .pollStream engineRid genCount now now' =>
    match x.streams.get? engineRid with
    | none => x
    | some stream => x.poll S engineRid stream genCount now now'
  | .cancel rid => x.withServer (ServingLayer.cancel S x.server rid).2
  | .step now => x.withServer (ServingLayer.apply S x.server (.step now))
  | .checkTimeouts now => x.withServer (ServingLayer.apply S x.server (.checkTimeouts now))

def run (events : List Event) : Sessions ε := events.foldl (apply S) { server := ServingLayer.initial S }

def body : Event → Option (Outcome × ServingState ε)
  | .next gid trackingId clock now now' =>
    (x.generators.get? gid).map (Generator.resume S x.server trackingId clock now now')
  | .close gid => (x.generators.get? gid).map (fun g => (g.interrupt, x.server))
  | _ => none

end Sessions

end MiniVllm
