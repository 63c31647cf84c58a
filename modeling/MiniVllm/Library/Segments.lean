import Mathlib.Tactic

/-! A concatenation and the segments that it is made of. -/

namespace MiniVllm

namespace Segments

variable {A B : Type} {f : A → List B} {len : A → ℕ} {xs : List A} {i : ℕ} {x : A}

def start (len : A → ℕ) (xs : List A) (i : ℕ) : ℕ := ((xs.take i).map len).sum

@[simp] lemma start_zero : start len xs 0 = 0 := rfl

lemma start_cons_succ : start len (x :: xs) (i + 1) = len x + start len xs i := rfl

lemma start_succ (hx : xs[i]? = some x) : start len xs (i + 1) = start len xs i + len x := by
  rw [start, start, List.take_add_one, hx, Option.toList_some, List.map_append, List.sum_append, List.map_singleton,
    List.sum_singleton]

lemma length_flatMap (hlen : ∀ x ∈ xs, (f x).length = len x) : (xs.flatMap f).length = (xs.map len).sum := by
  rw [List.length_flatMap, List.map_congr_left hlen]

lemma slice (hlen : ∀ x ∈ xs, (f x).length = len x) (hx : xs[i]? = some x) :
    ((xs.flatMap f).drop (start len xs i)).take (len x) = f x := by
  induction xs generalizing i with
  | nil => cases hx
  | cons y xs ih =>
    have hrest : ∀ x ∈ xs, (f x).length = len x := fun x hm => hlen x (List.mem_cons_of_mem y hm)
    have hy := hlen y List.mem_cons_self
    rw [List.flatMap_cons]
    cases i with
    | zero =>
      obtain rfl : y = x := Option.some.inj hx
      rw [start_zero, List.drop_zero, ← hy, List.take_left]
    | succ i =>
      rw [start_cons_succ, ← hy, List.drop_length_add_append]
      exact ih hrest hx

lemma slice_getElem? (hlen : ∀ x ∈ xs, (f x).length = len x) (hx : xs[i]? = some x) {r : ℕ} (hr : r < len x) :
    (xs.flatMap f)[start len xs i + r]? = (f x)[r]? := by
  rw [← slice hlen hx, List.getElem?_take_of_lt hr, List.getElem?_drop]

lemma slice_eq {bs : List B} {off n : ℕ} {g : ℕ → B} (h : ∀ r < n, bs[off + r]? = some (g r)) :
    (bs.drop off).take n = (List.range n).map g := by
  apply List.ext_getElem?
  intro r
  rw [List.getElem?_take, List.getElem?_map]
  by_cases hr : r < n
  · rw [if_pos hr, List.getElem?_drop, h r hr, List.getElem?_range hr, Option.map_some]
  · rw [if_neg hr, List.getElem?_eq_none (by simpa using hr), Option.map_none]

section Rest

variable {rest : List A} (h : xs.drop i = x :: rest)

include h

lemma getElem?_of_drop : xs[i]? = some x := by
  rw [← Nat.add_zero i, ← List.getElem?_drop, h, List.getElem?_cons_zero]

lemma drop_succ_of_drop : xs.drop (i + 1) = rest := by
  rw [← List.drop_drop, h, List.drop_succ_cons, List.drop_zero]

end Rest

end Segments

end MiniVllm
