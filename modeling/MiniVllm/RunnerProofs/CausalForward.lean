import MiniVllm.Model.QwenModel

/-! One uncached causal forward pass over a token list, and the same pass position by position. -/

namespace MiniVllm

namespace QwenModel

open Attention

variable {F H L : Type} {mc : ModelConfig} [Field F] (M : QwenModel F H L mc)

def causalLayer (layer : QwenDecoderLayer F H mc) (hidden : List H) : List H :=
  let rows := hidden.map (fun h => layer.qkvProj (layer.inputLayernorm h))
  let queries := rows.zipIdx.map (fun (row, p) h => M.rope p (row.1 h))
  let keys : List (KvRow F mc) := rows.zipIdx.map (fun (row, p) h => M.rope p (row.2.1 h))
  let values := rows.map (·.2.2)
  let attnOut := queries.zipIdx.map (fun (query, p) =>
    M.scaledDotProductAttention query (keys.map repeatInterleave) (values.map repeatInterleave)
      (causalMask p hidden.length))
  List.zipWith (fun out residual => layer.postAttention (layer.oProj out) residual) attnOut hidden

/-- The logits of every position of a token list. -/
def causalForward (tokens : List ℕ) : List L :=
  (M.layers.foldl (fun hidden layer => M.causalLayer layer hidden) (tokens.map M.embedTokens)).map
    (fun h => M.lmHead (M.norm h))

section Stream

variable (layer : QwenDecoderLayer F H mc) (x : ℕ → H)

def queryAt (p : ℕ) : QueryRow F mc := fun h => M.rope p ((layer.qkvProj (layer.inputLayernorm (x p))).1 h)

def keyAt (p : ℕ) : KvRow F mc := fun h => M.rope p ((layer.qkvProj (layer.inputLayernorm (x p))).2.1 h)

omit M in
def valueAt (p : ℕ) : KvRow F mc := (layer.qkvProj (layer.inputLayernorm (x p))).2.2

def attendRows (query : QueryRow F mc) (key value : ℕ → KvRow F mc) (p : ℕ) : QueryRow F mc := fun h =>
  attendPrefix M.exp M.scale (query h) (fun r => repeatInterleave (key r) h) (fun r => repeatInterleave (value r) h) p

def attendAt (p : ℕ) : QueryRow F mc := M.attendRows (M.queryAt layer x p) (M.keyAt layer x) (valueAt layer x) p

def layerAt (p : ℕ) : H := layer.postAttention (layer.oProj (M.attendAt layer x p)) (x p)

def layersAt (layers : List (QwenDecoderLayer F H mc)) (x : ℕ → H) : ℕ → H :=
  layers.foldl (fun x layer => M.layerAt layer x) x

def embedAt (tokens : List ℕ) (p : ℕ) : H := M.embedTokens (tokens.getD p 0)

def logitsAt (tokens : List ℕ) (p : ℕ) : L := M.lmHead (M.norm (M.layersAt M.layers (M.embedAt tokens) p))

end Stream

lemma attention_causal (query : QueryRow F mc) (key value : ℕ → KvRow F mc) {p n : ℕ} (h : p < n) :
    M.scaledDotProductAttention query (((List.range n).map key).map repeatInterleave)
      (((List.range n).map value).map repeatInterleave) (causalMask p n) = M.attendRows query key value p := by
  funext head
  simp only [scaledDotProductAttention, List.map_map]
  exact attend_causal (query head) (fun r => repeatInterleave (key r) head) (fun r => repeatInterleave (value r) head) h

lemma attention_full (query : QueryRow F mc) (key value : ℕ → KvRow F mc) (p : ℕ) :
    M.scaledDotProductAttention query (((List.range (p + 1)).map key).map repeatInterleave)
      (((List.range (p + 1)).map value).map repeatInterleave) (List.replicate (p + 1) true) =
        M.attendRows query key value p := by
  funext head
  simp only [scaledDotProductAttention, List.map_map]
  rfl

lemma zipIdx_map_range {α : Type} (x : ℕ → α) (n : ℕ) :
    ((List.range n).map x).zipIdx = (List.range n).map (fun p => (x p, p)) := by
  refine List.ext_getElem (by simp) fun i h₁ h₂ => ?_
  simp

lemma causalLayer_eq (layer : QwenDecoderLayer F H mc) (x : ℕ → H) (n : ℕ) :
    M.causalLayer layer ((List.range n).map x) = (List.range n).map (M.layerAt layer x) := by
  have hq : ∀ p ∈ List.range n, M.scaledDotProductAttention (M.queryAt layer x p)
      (((List.range n).map (M.keyAt layer x)).map repeatInterleave)
      (((List.range n).map (valueAt layer x)).map repeatInterleave) (causalMask p n) = M.attendAt layer x p :=
    fun p hp => M.attention_causal _ _ _ (List.mem_range.mp hp)
  have hattn := List.map_congr_left hq
  simp only [causalLayer, List.map_map, zipIdx_map_range, List.length_map, List.length_range, Function.comp_def]
  simp only [List.map_map, Function.comp_def] at hattn
  refine (congrArg (fun outs => List.zipWith (fun out residual =>
    layer.postAttention (layer.oProj out) residual) outs ((List.range n).map x)) hattn).trans ?_
  rw [List.zipWith_map, List.zipWith_self]
  rfl

theorem causalForward_eq (tokens : List ℕ) :
    M.causalForward tokens = (List.range tokens.length).map (M.logitsAt tokens) := by
  have hlayers : ∀ (layers : List (QwenDecoderLayer F H mc)) (x : ℕ → H),
      layers.foldl (fun hidden layer => M.causalLayer layer hidden) ((List.range tokens.length).map x) =
        (List.range tokens.length).map (M.layersAt layers x) := by
    intro layers
    induction layers with
    | nil => exact fun x => rfl
    | cons layer layers ih =>
      intro x
      rw [List.foldl_cons, causalLayer_eq, ih]
      rfl
  have hembed : tokens.map M.embedTokens = (List.range tokens.length).map (M.embedAt tokens) := by
    refine List.ext_getElem (by simp) fun i h₁ h₂ => ?_
    simp only [List.length_map] at h₁
    simp [embedAt, List.getD_eq_getElem?_getD, List.getElem?_eq_getElem h₁]
  rw [causalForward, hembed, hlayers, List.map_map]
  rfl

section Causal

variable {M} {layer : QwenDecoderLayer F H mc} {x y : ℕ → H} {p : ℕ}

omit [Field F] in
lemma keyAt_congr (h : x p = y p) : M.keyAt layer x p = M.keyAt layer y p := by
  funext head
  simp only [keyAt, h]

omit [Field F] in
lemma valueAt_congr (h : x p = y p) : valueAt layer x p = valueAt layer y p := by
  rw [valueAt, valueAt, h]

lemma layerAt_congr (h : ∀ r ≤ p, x r = y r) : M.layerAt layer x p = M.layerAt layer y p := by
  have hq : M.queryAt layer x p = M.queryAt layer y p := by
    funext head
    simp only [queryAt, h p le_rfl]
  have hattn : M.attendAt layer x p = M.attendAt layer y p := by
    funext head
    simp only [attendAt, attendRows, hq]
    exact attendPrefix_congr _ (fun r hr => by rw [keyAt_congr (h r hr)]) (fun r hr => by rw [valueAt_congr (h r hr)])
  rw [layerAt, layerAt, hattn, h p le_rfl]

end Causal

end QwenModel

end MiniVllm
