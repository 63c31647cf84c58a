import MiniVllm.Executor.Paged
import MiniVllm.ModelRunner.QwenRunner

/-! The tokens of a step: the end of `QwenModelRunner.execute_model`, and `PagedExecutor.execute` over a runner. -/

namespace MiniVllm

variable {L : Type}

namespace QwenModelRunner

def sampleRows (input : ModelInput) (logits : List L) : Except Exn (List L) :=
  if input.sampleTokenIndices.length > 0 then gatherLogits logits input.sampleTokenIndices else .ok logits

lemma executeModel_eq {F H : Type} {mc : ModelConfig} [Field F] (M : QwenModel F H L mc) {pool pool' : KVCachePool F mc}
    {input : ModelInput} {hidden : List H}
    (h : runLayers M input M.layers pool (input.inputIds.map M.embedTokens) = (.ok hidden, pool')) :
    executeModel M pool input = (sampleRows input (hidden.map (fun x => M.lmHead (M.norm x))), pool') := by
  simp only [executeModel, h, sampleRows]
  split_ifs
  · rfl
  · rfl

end QwenModelRunner

namespace PagedExecutor

def collectSequenceIds : ℕ → List SequenceExecutionInfo → Except Exn (List SeqId)
  | _, [] => .ok []
  | sampleIdx, info :: rest =>
    match info.sampleOutputIndex with
    | none => collectSequenceIds sampleIdx rest
    | some idx =>
      if idx = sampleIdx then
        match collectSequenceIds (sampleIdx + 1) rest with
        | .error err => .error err
        | .ok seqIds => .ok (info.sequenceId :: seqIds)
      else .error .assertionError

def sampleStep (argmax : L → ℕ) (executeModel : ModelInput → Except Exn (List L)) (input : ModelInput) :
    Except Exn ModelRunnerOutput :=
  match executeModel input with
  | .error err => .error err
  | .ok logits =>
    match collectSequenceIds 0 input.sequenceInfo with
    | .error err => .error err
    | .ok seqIds => .ok ⟨logits.map argmax, seqIds⟩

/-- A runner whose forward pass gives the flat position `p` the logits `logits p`. -/
def perPosition (logits : ℕ → L) (input : ModelInput) : Except Exn (List L) :=
  QwenModelRunner.sampleRows input ((List.range input.inputIds.length).map logits)

end PagedExecutor

end MiniVllm
