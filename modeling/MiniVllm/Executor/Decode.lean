import MiniVllm.Engine.Core
import MiniVllm.Executor.Fake

/-! `FakeModelExecutor.decode` of `executor/executor.py`, and the path of an engine step that replaces it. -/

namespace MiniVllm

namespace BlockManager

variable {ε : Type} (P : BlockParams ε) (bm : BlockManager ε)

/-- `ensure_block` at any position: below zero no block is missing, and the lookup counts from the table's end. -/
def ensureBlockAt (seq : Sequence) : ℤ → Except Exn (Option ℕ) × BlockManager ε
  | .ofNat position => bm.ensureBlock P seq position
  | .negSucc n =>
    let bm := bm.withTable seq.seqId
    match pyIndex (bm.getBlockTable seq.seqId) (.negSucc n / P.blockSize) with
    | .error err => (.error err, bm)
    | .ok pid => (.ok (some pid), bm)

end BlockManager

namespace FakeModel

def decodeToken (vocabSize prevToken kvBias : ℕ) : ℕ := (prevToken + 7 + kvBias) % vocabSize

end FakeModel

inductive DecodeExn
  | raised (err : Exn)
  | keyError (blockId : Option ℕ)
  deriving DecidableEq, Repr

namespace FakeModelExecutor

variable (config : Config) (P : BlockParams FakeState)

def writeToKv (bm : BlockManager FakeState) (seq : Sequence) (tokenPosition tokenId : ℕ) :
    Except DecodeExn Unit × BlockManager FakeState :=
  if bm.isBlockShared P seq tokenPosition then (.ok (), bm)
  else
    match bm.ensureBlock P seq tokenPosition with
    | (.error err, bm) => (.error (.raised err), bm)
    | (.ok none, bm) => (.error (.keyError none), bm)
    | (.ok (some pid), bm) =>
      if bm.allocator.listener.kvCache.contains pid then
        (.ok (), bm.withListener (writeTokens bm.allocator.listener config pid tokenId))
      else (.error (.keyError (some pid)), bm)

def readFromKv (bm : BlockManager FakeState) (seq : Sequence) (tokenPosition : ℤ) :
    Except DecodeExn ℕ × BlockManager FakeState :=
  match bm.ensureBlockAt P seq tokenPosition with
  | (.error err, bm) => (.error (.raised err), bm)
  | (.ok pid, bm) =>
    let kvData := (pid.bind bm.allocator.listener.kvCache.get?).getD []
    (.ok (kvData.sum % config.vocabSize), bm)

def decodeSeq (bm : BlockManager FakeState) (seq : Sequence) :
    Except DecodeExn Sequence × BlockManager FakeState :=
  match readFromKv config P bm seq ((seq.promptTokenIds.length : ℤ) + seq.numGeneratedTokens - 2) with
  | (.error err, bm) => (.error err, bm)
  | (.ok kvBias, bm) =>
    match seq.outputTokenIds.getLast? with
    | none => (.error (.raised .indexError), bm)
    | some prev =>
      let nextToken := FakeModel.decodeToken config.vocabSize prev kvBias
      match writeToKv config P bm seq (EngineCore.decodePosition seq) nextToken with
      | (.error err, bm) => (.error err, bm)
      | (.ok _, bm) =>
        (.ok { seq with
          outputTokenIds := seq.outputTokenIds ++ [nextToken]
          numGeneratedTokens := seq.numGeneratedTokens + 1 }, bm)

def decode : BlockManager FakeState → List Sequence →
    Except DecodeExn Unit × List Sequence × BlockManager FakeState
  | bm, [] => (.ok (), [], bm)
  | bm, seq :: sequences =>
    match decodeSeq config P bm seq with
    | (.error err, bm) => (.error err, seq :: sequences, bm)
    | (.ok seq, bm) =>
      let (r, sequences, bm) := decode bm sequences
      (r, seq :: sequences, bm)

end FakeModelExecutor

namespace EngineCore

variable {ε : Type} (S : Setup ε)

/-- `_apply_model_output`, for one of its sequences. -/
def receiveOutput (output : ModelRunnerOutput) (seq : Sequence) : Sequence :=
  (output.sampledTokenIds.zip output.sampledSequenceIds).foldl
    (fun seq item => if seq.seqId = item.2 then appendToken item.1 seq else seq) seq

def decodeUnified (bm : BlockManager ε) (seq : Sequence) : Except Exn Sequence × BlockManager ε :=
  match ensureStep S bm (seq, decodePosition seq) with
  | (.error err, bm) => (.error err, bm)
  | (.ok _, bm) =>
    match ModelInputBuilder.build S.config bm [] [seq] with
    | .error err => (.error err, bm)
    | .ok input =>
      match S.executor.execute input bm with
      | (.error err, bm) => (.error err, bm)
      | (.ok output, bm) => (.ok (receiveOutput output seq), bm)

end EngineCore

end MiniVllm
