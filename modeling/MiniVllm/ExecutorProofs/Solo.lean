import MiniVllm.ExecutorProofs.Effects

/-! The tokens that the fake model generates for a prompt that is served alone. -/

namespace MiniVllm

namespace FakeModelExecutor

section Solo

variable (vocabSize blockSize promptLen : ℕ)

/-- The token id written at a position: a prompt position writes its own number. -/
def tokenAt (outputs : List ℕ) (r : ℕ) : ℕ :=
  if r < promptLen then r % vocabSize else outputs.getD (r - promptLen + 1) 0

def blockSum (outputs : List ℕ) (i len : ℕ) : ℕ :=
  (((List.range len).filter (· / blockSize = i)).map
    (fun r => kvSum vocabSize (tokenAt vocabSize promptLen outputs r))).sum

def nextOutput (outputs : List ℕ) : ℕ :=
  match outputs.getLast? with
  | none => ((promptLen - 1) * 3 + 1) % vocabSize
  | some last =>
    (last + 7 + blockSum vocabSize blockSize promptLen outputs
      ((promptLen + outputs.length - 2) / blockSize) (promptLen + outputs.length - 1) % vocabSize) % vocabSize

def soloOutputs : ℕ → List ℕ
  | 0 => []
  | n + 1 => soloOutputs n ++ [nextOutput vocabSize blockSize promptLen (soloOutputs n)]

variable {vocabSize blockSize promptLen}

lemma tokenAt_append {outputs : List ℕ} (more : List ℕ) {r : ℕ} (h : r + 1 < promptLen + outputs.length) :
    tokenAt vocabSize promptLen (outputs ++ more) r = tokenAt vocabSize promptLen outputs r := by
  simp only [tokenAt]
  split_ifs with hr
  · rfl
  · simp only [List.getD_eq_getElem?_getD]
    rw [List.getElem?_append_left (by omega)]

lemma blockSum_congr {outputs outputs' : List ℕ} {i len : ℕ}
    (h : ∀ r < len, tokenAt vocabSize promptLen outputs r = tokenAt vocabSize promptLen outputs' r) :
    blockSum vocabSize blockSize promptLen outputs i len = blockSum vocabSize blockSize promptLen outputs' i len := by
  simp only [blockSum]
  refine congrArg List.sum (List.map_congr_left fun r hr => ?_)
  rw [h r (List.mem_range.mp (List.mem_of_mem_filter hr))]

lemma blockSum_add (vocabSize blockSize promptLen : ℕ) (outputs : List ℕ) (i len more : ℕ) :
    blockSum vocabSize blockSize promptLen outputs i (len + more) =
      blockSum vocabSize blockSize promptLen outputs i len +
        ((((List.range more).map (len + ·)).filter (· / blockSize = i)).map
          (fun r => kvSum vocabSize (tokenAt vocabSize promptLen outputs r))).sum := by
  simp only [blockSum, List.range_add, List.filter_append, List.map_append, List.sum_append]

lemma blockSum_eq_zero (outputs : List ℕ) {i len : ℕ} (hbs : 0 < blockSize) (h : len ≤ i * blockSize) :
    blockSum vocabSize blockSize promptLen outputs i len = 0 := by
  have hnil : (List.range len).filter (· / blockSize = i) = [] := by
    refine List.filter_eq_nil_iff.mpr fun r hr he => ?_
    have hlt := (Nat.div_lt_iff_lt_mul hbs).mpr ((List.mem_range.mp hr).trans_le h)
    have := of_decide_eq_true he
    omega
  rw [blockSum, hnil]
  rfl

end Solo

end FakeModelExecutor

end MiniVllm
