import MiniVllm.Sequence
import Mathlib.Algebra.Field.Basic

/-! `model/rotary.py`. -/

namespace MiniVllm

/-- The operations on numbers that the library of tensors gives beside the field's own. -/
structure Elementary (F : Type) where
  pow : F → F → F
  cos : F → F
  sin : F → F

structure RotaryEmbedding (F : Type) where
  headDim : ℕ
  invFreq : List F
  cos : List (List F)
  sin : List (List F)

namespace RotaryEmbedding

variable {F : Type} [Field F]

def inverseFrequencies (fn : Elementary F) (headDim : ℕ) (theta : F) : List F :=
  (List.range ((headDim + 1) / 2)).map (fun i : ℕ => 1 / fn.pow theta (((2 * i : ℕ) : F) / (headDim : F)))

def init (fn : Elementary F) (headDim : ℕ) (theta : F) (maxSeqLen : ℕ) : RotaryEmbedding F :=
  let invFreq := inverseFrequencies fn headDim theta
  let t := (List.range maxSeqLen).map (fun m : ℕ => (m : F))
  let freqs := t.map (fun m => invFreq.map (fun f => m * f))
  let emb := freqs.map (fun row => row ++ row)
  { headDim := headDim
    invFreq := invFreq
    cos := emb.map (fun row => row.map fn.cos)
    sin := emb.map (fun row => row.map fn.sin) }

def rotateHalf (x cos sin : List F) : List F :=
  let half := x.length / 2
  let x1 := x.take half
  let x2 := x.drop half
  let rotated := x2.map (fun v => -v) ++ x1
  List.zipWith (fun a b => a + b) (List.zipWith (fun a b => a * b) x cos) (List.zipWith (fun a b => a * b) rotated sin)

def rowsAt (table : List (List F)) (positions : List ℕ) : Except Exn (List (List F)) :=
  positions.mapM fun p => match table[p]? with
    | some row => .ok row
    | none => .error .indexError

/-- `x` holds the heads of each token; all heads of a token share its row of cosines and sines. -/
def call (r : RotaryEmbedding F) (x : List (List (List F))) (positions : List ℕ) :
    Except Exn (List (List (List F))) :=
  match rowsAt r.cos positions, rowsAt r.sin positions with
  | .ok cos, .ok sin =>
    .ok (List.zipWith (fun heads row => heads.map (fun head => rotateHalf head row.1 row.2)) x (cos.zip sin))
  | .error err, _ => .error err
  | _, .error err => .error err

end RotaryEmbedding

end MiniVllm
