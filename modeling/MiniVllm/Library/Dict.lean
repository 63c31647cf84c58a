import Mathlib.Data.List.Nodup
import Mathlib.Algebra.BigOperators.Group.List.Basic
import Mathlib.Algebra.BigOperators.Intervals
import Mathlib.Tactic

/-! Insertion-ordered dictionaries: updating a key keeps its place, a new key goes last. -/

namespace MiniVllm

structure Dict (κ ν : Type) where
  entries : List (κ × ν)
  nodup : (entries.map Prod.fst).Nodup

namespace Dict

variable {κ ν ω : Type} [DecidableEq κ]

def empty : Dict κ ν := ⟨[], by simp⟩

def lookup (k : κ) : List (κ × ν) → Option ν
  | [] => none
  | (j, w) :: rest => if j = k then some w else lookup k rest

def get? (d : Dict κ ν) (k : κ) : Option ν := lookup k d.entries

def contains (d : Dict κ ν) (k : κ) : Bool := (d.get? k).isSome

def keys (d : Dict κ ν) : List κ := d.entries.map Prod.fst

def values (d : Dict κ ν) : List ν := d.entries.map Prod.snd

def size (d : Dict κ ν) : ℕ := d.entries.length

def setEntries (k : κ) (v : ν) : List (κ × ν) → List (κ × ν)
  | [] => [(k, v)]
  | (j, w) :: rest => if j = k then (k, v) :: rest else (j, w) :: setEntries k v rest

lemma mem_setEntries_keys (k : κ) (v : ν) (es : List (κ × ν)) (j : κ) :
    j ∈ (setEntries k v es).map Prod.fst ↔ j = k ∨ j ∈ es.map Prod.fst := by
  induction es with
  | nil => simp [setEntries]
  | cons e rest ih =>
    obtain ⟨i, w⟩ := e
    by_cases h : i = k
    · subst h
      simp [setEntries]
    · simp only [setEntries, h, if_false, List.map_cons, List.mem_cons, ih]
      tauto

lemma setEntries_nodup (k : κ) (v : ν) (es : List (κ × ν)) (h : (es.map Prod.fst).Nodup) :
    ((setEntries k v es).map Prod.fst).Nodup := by
  induction es with
  | nil => simp [setEntries]
  | cons e rest ih =>
    obtain ⟨i, w⟩ := e
    simp only [List.map_cons, List.nodup_cons] at h
    by_cases hi : i = k
    · subst hi
      simpa [setEntries] using h
    · simp only [setEntries, hi, if_false, List.map_cons, List.nodup_cons]
      exact ⟨fun hm => ((mem_setEntries_keys k v rest i).mp hm).elim hi h.1, ih h.2⟩

def set (d : Dict κ ν) (k : κ) (v : ν) : Dict κ ν :=
  ⟨setEntries k v d.entries, setEntries_nodup k v d.entries d.nodup⟩

def pop (d : Dict κ ν) (k : κ) : Dict κ ν :=
  ⟨d.entries.filter (fun e => e.1 ≠ k), d.nodup.sublist (List.filter_sublist.map _)⟩

def mapValues (f : ν → ω) (d : Dict κ ν) : Dict κ ω :=
  ⟨d.entries.map (fun e => (e.1, f e.2)), by simpa [List.map_map, Function.comp_def] using d.nodup⟩

@[simp] lemma get?_empty (k : κ) : (empty : Dict κ ν).get? k = none := rfl

lemma lookup_setEntries (k : κ) (v : ν) (es : List (κ × ν)) (j : κ) :
    lookup j (setEntries k v es) = if j = k then some v else lookup j es := by
  induction es with
  | nil => by_cases h : k = j <;> simp [setEntries, lookup, h, eq_comm]
  | cons e rest ih =>
    obtain ⟨i, w⟩ := e
    by_cases hi : i = k
    · subst hi
      by_cases hj : i = j
      · simp [setEntries, lookup, hj]
      · simp [setEntries, lookup, hj, Ne.symm hj]
    · by_cases hj : i = j
      · subst hj
        simp [setEntries, hi, lookup]
      · simp [setEntries, hi, lookup, hj, ih]

lemma get?_set (d : Dict κ ν) (k : κ) (v : ν) (j : κ) :
    (d.set k v).get? j = if j = k then some v else d.get? j :=
  lookup_setEntries k v d.entries j

@[simp] lemma get?_set_self (d : Dict κ ν) (k : κ) (v : ν) : (d.set k v).get? k = some v := by
  simp [get?_set]

lemma get?_set_ne (d : Dict κ ν) {k j : κ} (v : ν) (h : j ≠ k) : (d.set k v).get? j = d.get? j := by
  simp [get?_set, h]

lemma lookup_filter_ne (k : κ) (es : List (κ × ν)) (j : κ) :
    lookup j (es.filter (fun e => e.1 ≠ k)) = if j = k then none else lookup j es := by
  induction es with
  | nil => simp [lookup]
  | cons e rest ih =>
    obtain ⟨i, w⟩ := e
    by_cases hi : i = k
    · subst hi
      rw [List.filter_cons_of_neg (by simp), ih]
      by_cases hj : j = i
      · simp [hj]
      · simp [hj, lookup, Ne.symm hj]
    · rw [List.filter_cons_of_pos (by simpa using hi)]
      by_cases hj : i = j
      · subst hj
        simp [hi, lookup]
      · simp only [lookup, hj, if_false, ih]

lemma get?_pop (d : Dict κ ν) (k j : κ) : (d.pop k).get? j = if j = k then none else d.get? j :=
  lookup_filter_ne k d.entries j

@[simp] lemma get?_pop_self (d : Dict κ ν) (k : κ) : (d.pop k).get? k = none := by
  simp [get?_pop]

lemma get?_pop_ne (d : Dict κ ν) {k j : κ} (h : j ≠ k) : (d.pop k).get? j = d.get? j := by
  simp [get?_pop, h]

@[simp] lemma get?_mapValues (f : ν → ω) (d : Dict κ ν) (k : κ) :
    (d.mapValues f).get? k = (d.get? k).map f := by
  obtain ⟨es, h⟩ := d
  simp only [mapValues, get?]
  clear h
  induction es with
  | nil => rfl
  | cons e rest ih =>
    obtain ⟨i, w⟩ := e
    by_cases hi : i = k <;> simp [lookup, hi, ih]

lemma mem_entries (d : Dict κ ν) (k : κ) (v : ν) : (k, v) ∈ d.entries ↔ d.get? k = some v := by
  obtain ⟨es, h⟩ := d
  simp only [get?]
  induction es with
  | nil => simp [lookup]
  | cons e rest ih =>
    obtain ⟨i, w⟩ := e
    simp only [List.map_cons, List.nodup_cons] at h
    by_cases hi : i = k
    · subst hi
      have hn : (i, v) ∉ rest := fun hm => h.1 (List.mem_map.mpr ⟨_, hm, rfl⟩)
      simp [lookup, hn, eq_comm]
    · simp [lookup, hi, Ne.symm hi, ih h.2]

lemma mem_values (d : Dict κ ν) (v : ν) : v ∈ d.values ↔ ∃ k, d.get? k = some v := by
  simp only [values, List.mem_map, Prod.exists, mem_entries]
  simp

lemma mem_keys (d : Dict κ ν) (k : κ) : k ∈ d.keys ↔ d.get? k ≠ none := by
  simp only [keys, List.mem_map, Prod.exists, mem_entries, Option.ne_none_iff_exists']
  simp

lemma setEntries_lookup {k : κ} {v : ν} {es : List (κ × ν)} (h : lookup k es = some v) :
    setEntries k v es = es := by
  induction es with
  | nil => simp [lookup] at h
  | cons e rest ih =>
    obtain ⟨i, w⟩ := e
    by_cases hi : i = k
    · subst hi
      simp only [lookup, if_true, Option.some.injEq] at h
      simp [setEntries, h]
    · simp only [lookup, hi, if_false] at h
      simp [setEntries, hi, ih h]

lemma set_eq_self (d : Dict κ ν) {k : κ} {v : ν} (h : d.get? k = some v) : d.set k v = d := by
  obtain ⟨es, hn⟩ := d
  simp only [set, mk.injEq]
  exact setEntries_lookup h

lemma nodup_values_map (d : Dict κ ν) (f : ν → κ) (h : ∀ k v, d.get? k = some v → f v = k) :
    (d.values.map f).Nodup := by
  have he : d.values.map f = d.entries.map Prod.fst := by
    rw [values, List.map_map]
    exact List.map_congr_left (fun e hm => h e.1 e.2 ((d.mem_entries e.1 e.2).mp hm))
  rw [he]
  exact d.nodup

def total (f : ν → ℕ) (d : Dict κ ν) : ℕ := (d.values.map f).sum

lemma total_set_new (f : ν → ℕ) (d : Dict κ ν) (k : κ) (v : ν) (h : d.get? k = none) :
    (d.set k v).total f = d.total f + f v := by
  obtain ⟨es, hn⟩ := d
  simp only [total, values, set, get?] at h ⊢
  clear hn
  induction es with
  | nil => simp [setEntries]
  | cons e rest ih =>
    obtain ⟨i, w⟩ := e
    by_cases hi : k = i
    · simp [lookup, hi] at h
    · have hi' : i ≠ k := Ne.symm hi
      simp only [lookup, hi', if_false] at h
      simp only [setEntries, hi', if_false, List.map_cons, List.sum_cons, ih h]
      omega

lemma total_set_old (f : ν → ℕ) (d : Dict κ ν) (k : κ) (v w : ν) (h : d.get? k = some w) :
    (d.set k v).total f + f w = d.total f + f v := by
  obtain ⟨es, hn⟩ := d
  simp only [total, values, set, get?] at h ⊢
  clear hn
  induction es with
  | nil => simp [lookup] at h
  | cons e rest ih =>
    obtain ⟨i, u⟩ := e
    by_cases hi : k = i
    · subst hi
      simp only [lookup, if_true, Option.some.injEq] at h
      subst h
      simp only [setEntries, if_true, List.map_cons, List.sum_cons]
      omega
    · have hi' : i ≠ k := Ne.symm hi
      simp only [lookup, hi', if_false] at h
      have hh := ih h
      simp only [setEntries, hi', if_false, List.map_cons, List.sum_cons]
      omega

lemma total_pop (f : ν → ℕ) (d : Dict κ ν) (k : κ) (w : ν) (h : d.get? k = some w) :
    (d.pop k).total f + f w = d.total f := by
  obtain ⟨es, hn⟩ := d
  simp only [total, values, pop, get?] at h ⊢
  induction es with
  | nil => simp [lookup] at h
  | cons e rest ih =>
    obtain ⟨i, u⟩ := e
    simp only [List.map_cons, List.nodup_cons] at hn
    by_cases hi : k = i
    · subst hi
      simp only [lookup, if_true, Option.some.injEq] at h
      subst h
      have hf : rest.filter (fun e => decide (e.1 ≠ k)) = rest := by
        apply List.filter_eq_self.mpr
        intro e he
        have hne : e.1 ≠ k := fun hk => hn.1 (List.mem_map.mpr ⟨e, he, hk⟩)
        simpa using hne
      rw [List.filter_cons_of_neg (by simp), hf]
      simp only [List.map_cons, List.sum_cons]
      omega
    · have hi' : i ≠ k := Ne.symm hi
      simp only [lookup, hi', if_false] at h
      have hh := ih hn.2 h
      rw [List.filter_cons_of_pos (by simpa using hi')]
      simp only [List.map_cons, List.sum_cons]
      omega

lemma le_total (f : ν → ℕ) (d : Dict κ ν) {k : κ} {v : ν} (h : d.get? k = some v) :
    f v ≤ d.total f := by
  have := d.total_pop f k v h
  omega

lemma exists_of_total_pos (f : ν → ℕ) (d : Dict κ ν) (h : 0 < d.total f) :
    ∃ k v, d.get? k = some v ∧ 0 < f v := by
  obtain ⟨n, hn, hpos⟩ : ∃ n ∈ d.values.map f, 0 < n := by
    by_contra hc
    push Not at hc
    have hz : (d.values.map f).sum = 0 := List.sum_eq_zero (fun n hn => Nat.le_zero.mp (hc n hn))
    rw [total, hz] at h
    exact absurd h (lt_irrefl 0)
  obtain ⟨v, hv, rfl⟩ := List.mem_map.mp hn
  obtain ⟨k, hk⟩ := (d.mem_values v).mp hv
  exact ⟨k, v, hk, hpos⟩

lemma get?_set_some {d : Dict κ ν} {k j : κ} {v w : ν} (h : (d.set k v).get? j = some w) :
    j = k ∧ w = v ∨ d.get? j = some w := by
  rw [get?_set] at h
  split_ifs at h with hj
  · exact Or.inl ⟨hj, (Option.some.inj h).symm⟩
  · exact Or.inr h

lemma get?_pop_some {d : Dict κ ν} {k j : κ} {v : ν} (h : (d.pop k).get? j = some v) : d.get? j = some v := by
  rw [get?_pop] at h
  split_ifs at h
  exact h

lemma entries_perm {d e : Dict κ ν} (h : ∀ k, d.get? k = e.get? k) : d.entries.Perm e.entries := by
  apply (List.perm_ext_iff_of_nodup d.nodup.of_map e.nodup.of_map).mpr
  rintro ⟨k, v⟩
  rw [d.mem_entries, e.mem_entries, h]

lemma total_congr (f : ν → ℕ) {d e : Dict κ ν} (h : ∀ k, d.get? k = e.get? k) : d.total f = e.total f := by
  apply List.Perm.sum_eq
  exact ((entries_perm h).map Prod.snd).map f

omit [DecidableEq κ] in
lemma total_mapValues (f : ω → ℕ) (g : ν → ω) (d : Dict κ ν) :
    (d.mapValues g).total f = d.total (fun v => f (g v)) := by
  simp only [total, values, mapValues, List.map_map]
  rfl

lemma total_map (f : ω → ℕ) (g : ν → ω) {d : Dict κ ν} {e : Dict κ ω} (h : ∀ k, e.get? k = (d.get? k).map g) :
    e.total f = d.total (fun v => f (g v)) := by
  have he : e.total f = (d.mapValues g).total f := by
    apply total_congr
    intro k
    rw [h, get?_mapValues]
  rw [he, total_mapValues]

lemma total_le_total (f g : ν → ℕ) (d : Dict κ ν) (h : ∀ k v, d.get? k = some v → f v ≤ g v) :
    d.total f ≤ d.total g := by
  apply List.sum_le_sum
  intro v hv
  obtain ⟨k, hk⟩ := (d.mem_values v).mp hv
  exact h k v hk

lemma total_lt_total (f g : ν → ℕ) (d : Dict κ ν) (h : ∀ k v, d.get? k = some v → f v ≤ g v) {k : κ} {v : ν}
    (hk : d.get? k = some v) (hlt : f v < g v) : d.total f < d.total g := by
  have hf := d.total_pop f k v hk
  have hg := d.total_pop g k v hk
  have hle := (d.pop k).total_le_total f g fun j w hj => h j w (get?_pop_some hj)
  omega

omit [DecidableEq κ] in
lemma total_add (f g : ν → ℕ) (d : Dict κ ν) : d.total (fun v => f v + g v) = d.total f + d.total g :=
  List.sum_map_add

omit [DecidableEq κ] in
lemma size_eq_total (d : Dict κ ν) : d.size = d.total (fun _ => 1) := by
  simp only [size, total, values, List.map_map, Function.comp_def, List.map_const', List.sum_replicate,
    smul_eq_mul, Nat.mul_one]

lemma total_ext (f g : ν → ℕ) (d : Dict κ ν) (h : ∀ k v, d.get? k = some v → f v = g v) :
    d.total f = d.total g := by
  apply le_antisymm
  · exact total_le_total f g d fun k v hk => (h k v hk).le
  · exact total_le_total g f d fun k v hk => (h k v hk).ge

omit [DecidableEq κ] in
lemma total_sum (f : ℕ → ν → ℕ) (d : Dict κ ν) (n : ℕ) :
    d.total (fun v => ∑ p ∈ Finset.range n, f p v) = ∑ p ∈ Finset.range n, d.total (f p) := by
  induction n with
  | zero => simp [total]
  | succ n ih =>
    simp only [Finset.sum_range_succ]
    rw [total_add, ih]

lemma mem_keys_iff (d : Dict κ ν) (k : κ) : k ∈ d.keys ↔ d.contains k = true := by
  rw [d.mem_keys, contains, Option.isSome_iff_ne_none]

lemma total_eq_sum (f : ν → ℕ) (d : Dict κ ν) {ks : List κ} (hnd : ks.Nodup)
    (hmem : ∀ k, k ∈ ks ↔ d.contains k = true) : d.total f = (ks.map (fun k => (d.get? k).elim 0 f)).sum := by
  have hp : ks.Perm d.keys := by
    apply (List.perm_ext_iff_of_nodup hnd d.nodup).mpr
    intro k
    exact (hmem k).trans (d.mem_keys_iff k).symm
  rw [(hp.map _).sum_eq, total, values, keys, List.map_map, List.map_map]
  refine congrArg List.sum (List.map_congr_left fun e he => ?_)
  have hget := (d.mem_entries e.1 e.2).mp he
  simp only [Function.comp_apply, hget, Option.elim_some]

lemma size_eq_countP (d : Dict κ ν) {ks : List κ} (hnd : ks.Nodup) (hall : ∀ k, d.contains k = true → k ∈ ks) :
    d.size = ks.countP d.contains := by
  have hp : d.keys.Perm (ks.filter d.contains) := by
    apply (List.perm_ext_iff_of_nodup d.nodup (hnd.filter _)).mpr
    intro k
    refine (d.mem_keys_iff k).trans ?_
    rw [List.mem_filter]
    exact ⟨fun h => ⟨hall k h, h⟩, And.right⟩
  rw [List.countP_eq_length_filter, ← hp.length_eq, keys, List.length_map, size]

lemma get?_foldl_set (es : List (κ × ν)) (d : Dict κ ν) (hn : (es.map Prod.fst).Nodup) {k : κ} {v : ν}
    (h : (k, v) ∈ es) : (es.foldl (fun d e => d.set e.1 e.2) d).get? k = some v := by
  induction es generalizing d with
  | nil => cases h
  | cons e es ih =>
    obtain ⟨hnot, hrest⟩ := List.nodup_cons.mp hn
    rcases List.mem_cons.mp h with rfl | h
    · have hother : ∀ (rest : List (κ × ν)) (d : Dict κ ν), k ∉ rest.map Prod.fst →
          (rest.foldl (fun d e => d.set e.1 e.2) d).get? k = d.get? k := by
        intro rest
        induction rest with
        | nil => exact fun _ _ => rfl
        | cons e rest ih =>
          intro d hk
          rw [List.map_cons, List.mem_cons, not_or] at hk
          rw [List.foldl_cons, ih _ hk.2, get?_set_ne _ _ hk.1]
      rw [List.foldl_cons, hother es _ hnot, get?_set_self]
    · exact ih _ hrest h

lemma contains_set (d : Dict κ ν) (k : κ) (v : ν) (j : κ) :
    (d.set k v).contains j = (decide (j = k) || d.contains j) := by
  by_cases h : j = k <;> simp [contains, get?_set, h]

lemma contains_pop (d : Dict κ ν) (k j : κ) : (d.pop k).contains j = (!decide (j = k) && d.contains j) := by
  by_cases h : j = k <;> simp [contains, get?_pop, h]

lemma contains_of_get? {d : Dict κ ν} {k : κ} {v : ν} (h : d.get? k = some v) : d.contains k = true := by
  rw [contains, h]
  rfl

end Dict

end MiniVllm
