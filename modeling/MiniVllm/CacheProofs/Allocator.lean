import MiniVllm.Cache.Allocator

/-! What `allocate(1)`, `increment_ref` and `free` do to the free flags and the reference counts. -/

namespace MiniVllm

namespace BlockAllocator

variable {ε : Type} (cb : Callbacks ε) (a : BlockAllocator ε)

structure Valid : Prop where
  flags : a.freeFlags.length = a.numBlocks
  refs : a.refCounts.length = a.numBlocks
  free_iff : ∀ p < a.numBlocks, (a.isFree p = true ↔ a.getRefCount p = 0)

lemma getD_set {α : Type} (xs : List α) (i j : ℕ) (v d : α) (hi : i < xs.length) :
    (xs.set i v).getD j d = if j = i then v else xs.getD j d := by
  by_cases h : j = i
  · subst h
    simp [List.getD_eq_getElem?_getD, hi]
  · simp [List.getD_eq_getElem?_getD, h, List.getElem?_set_ne (Ne.symm h)]

lemma initial_valid (n : ℕ) (x : ε) : (initial n x).Valid where
  flags := by simp [initial]
  refs := by simp [initial]
  free_iff := by
    intro p hp
    have hp' : p < n := hp
    simp [initial, isFree, getRefCount, List.getD_eq_getElem?_getD, hp']

variable {a}

lemma lt_of_isFree (hv : a.Valid) {p : ℕ} (h : a.isFree p = true) : p < a.numBlocks := by
  by_contra hc
  rw [← hv.flags] at hc
  simp [isFree, List.getD_eq_getElem?_getD, List.getElem?_eq_none (Nat.le_of_not_lt hc)] at h

lemma lt_of_getRefCount (hv : a.Valid) {p : ℕ} (h : a.getRefCount p ≠ 0) : p < a.numBlocks := by
  by_contra hc
  rw [← hv.refs] at hc
  exact h (by simp [getRefCount, List.getD_eq_getElem?_getD, List.getElem?_eq_none (Nat.le_of_not_lt hc)])

lemma isFree_eq_false (hv : a.Valid) {p : ℕ} (h : a.getRefCount p ≠ 0) : a.isFree p = false := by
  have := (hv.free_iff p (lt_of_getRefCount hv h)).not.mpr h
  simpa using this

lemma getRefCount_of_isFree (hv : a.Valid) {p : ℕ} (h : a.isFree p = true) : a.getRefCount p = 0 :=
  (hv.free_iff p (lt_of_isFree hv h)).mp h

lemma scanFree_one (flags : List Bool) (i : ℕ) (h : 0 < flags.countP (· = true)) :
    ∃ k, flags[k]? = some true ∧ (∀ j < k, flags[j]? ≠ some true) ∧ scanFree 1 i flags [] = [i + k] := by
  induction flags generalizing i with
  | nil => simp at h
  | cons b rest ih =>
    cases b with
    | true => exact ⟨0, rfl, fun j hj => absurd hj (Nat.not_lt_zero j), by simp [scanFree]⟩
    | false =>
      obtain ⟨k, hk, hfirst, hs⟩ := ih (i + 1) (by simpa using h)
      refine ⟨k + 1, by simpa using hk, fun j hj => ?_, by simp only [scanFree, hs]; congr 1; omega⟩
      cases j with
      | zero => simp
      | succ j => simpa using hfirst j (by omega)

lemma allocate_one (a : BlockAllocator ε) :
    (a.allocate cb 1 = (none, a) ∧ ∀ p, a.isFree p = false) ∨
      ∃ p, a.isFree p = true ∧ (∀ r < p, a.isFree r = false) ∧
        a.allocate cb 1 = (some [p], a.takeBlock cb p) := by
  by_cases h : 0 < a.freeFlags.countP (· = true)
  · obtain ⟨k, hk, hfirst, hs⟩ := scanFree_one a.freeFlags 0 h
    right
    refine ⟨k, by simp [isFree, List.getD_eq_getElem?_getD, hk], fun r hr => ?_, ?_⟩
    · have hne := hfirst r hr
      cases hg : a.freeFlags[r]? with
      | none => simp [isFree, List.getD_eq_getElem?_getD, hg]
      | some b => cases b <;> simp_all [isFree, List.getD_eq_getElem?_getD]
    have hn : ¬ 1 > a.numFreeBlocks := by
      simp only [numFreeBlocks]
      omega
    simp [allocate, hn, hs]
  · left
    have hz : a.numFreeBlocks = 0 := by
      simp only [numFreeBlocks]
      omega
    refine ⟨by simp [allocate, hz], fun p => ?_⟩
    have hall : ∀ b ∈ a.freeFlags, b ≠ true := by simpa [numFreeBlocks, List.countP_eq_zero] using hz
    cases hp : a.freeFlags[p]? with
    | none => simp [isFree, List.getD_eq_getElem?_getD, hp]
    | some b => simpa [isFree, List.getD_eq_getElem?_getD, hp] using hall b (List.mem_of_getElem? hp)

section TakeBlock

variable {p : ℕ}

lemma getRefCount_takeBlock (hv : a.Valid) (hp : a.isFree p = true) (r : ℕ) :
    (a.takeBlock cb p).getRefCount r = if r = p then 1 else a.getRefCount r :=
  getD_set _ _ _ _ _ (hv.refs ▸ lt_of_isFree hv hp)

lemma isFree_takeBlock (hv : a.Valid) (hp : a.isFree p = true) (r : ℕ) :
    (a.takeBlock cb p).isFree r = if r = p then false else a.isFree r :=
  getD_set _ _ _ _ _ (hv.flags ▸ lt_of_isFree hv hp)

lemma takeBlock_valid (hv : a.Valid) (hp : a.isFree p = true) : (a.takeBlock cb p).Valid where
  flags := by simpa [takeBlock] using hv.flags
  refs := by simpa [takeBlock] using hv.refs
  free_iff := by
    intro r hr
    rw [isFree_takeBlock cb hv hp, getRefCount_takeBlock cb hv hp]
    by_cases h : r = p
    · simp [h]
    · simpa [h] using hv.free_iff r hr

end TakeBlock

def addRef (a : BlockAllocator ε) (p : ℕ) : BlockAllocator ε :=
  { a with refCounts := a.refCounts.set p (a.getRefCount p + 1) }

lemma incrementRef_eq (hv : a.Valid) {p : ℕ} (hp : 0 < a.getRefCount p) :
    a.incrementRef p = .ok (a.addRef p) := by
  simp [incrementRef, addRef, isFree_eq_false hv (ne_of_gt hp)]

lemma getRefCount_addRef (hv : a.Valid) {p : ℕ} (hp : 0 < a.getRefCount p) (r : ℕ) :
    (a.addRef p).getRefCount r = if r = p then a.getRefCount p + 1 else a.getRefCount r :=
  getD_set _ _ _ _ _ (hv.refs ▸ lt_of_getRefCount hv (ne_of_gt hp))

lemma addRef_valid (hv : a.Valid) {p : ℕ} (hp : 0 < a.getRefCount p) : (a.addRef p).Valid where
  flags := hv.flags
  refs := by simpa [addRef] using hv.refs
  free_iff := by
    intro r hr
    rw [getRefCount_addRef hv hp]
    by_cases h : r = p
    · subst h
      have hf : (a.addRef r).isFree r = false := isFree_eq_false hv (ne_of_gt hp)
      simp only [hf, if_true]
      exact ⟨fun hc => absurd hc (by simp), fun hc => by omega⟩
    · have hr' : r < a.numBlocks := hr
      simpa only [if_neg h] using! hv.free_iff r hr'

lemma releaseBlock_refs (a : BlockAllocator ε) {p : ℕ} (hp : 0 < a.getRefCount p) :
    (a.releaseBlock cb p).refCounts = a.refCounts.set p (a.getRefCount p - 1) := by
  have hne : a.getRefCount p ≠ 0 := ne_of_gt hp
  by_cases h : a.getRefCount p - 1 = 0 <;> simp [releaseBlock, hne, h]

lemma releaseBlock_numBlocks (a : BlockAllocator ε) (p : ℕ) :
    (a.releaseBlock cb p).numBlocks = a.numBlocks := by
  simp only [releaseBlock]
  split_ifs <;> rfl

lemma getRefCount_releaseBlock (hv : a.Valid) {p : ℕ} (hp : 0 < a.getRefCount p) (r : ℕ) :
    (a.releaseBlock cb p).getRefCount r = if r = p then a.getRefCount p - 1 else a.getRefCount r := by
  simp only [getRefCount, releaseBlock_refs cb a hp]
  exact getD_set _ _ _ _ _ (hv.refs ▸ lt_of_getRefCount hv (ne_of_gt hp))

lemma isFree_releaseBlock (hv : a.Valid) {p : ℕ} (hp : 0 < a.getRefCount p) (r : ℕ) :
    (a.releaseBlock cb p).isFree r =
      if r = p then decide (a.getRefCount p = 1) else a.isFree r := by
  have hlt := lt_of_getRefCount hv (ne_of_gt hp)
  have hne : a.getRefCount p ≠ 0 := ne_of_gt hp
  by_cases h : a.getRefCount p - 1 = 0
  · have h1 : a.getRefCount p = 1 := by omega
    have hs : (a.releaseBlock cb p).freeFlags = a.freeFlags.set p true := by
      simp [releaseBlock, hne, h]
    simp only [isFree, hs, h1, decide_true]
    exact getD_set _ _ _ _ _ (hv.flags ▸ hlt)
  · have h1 : a.getRefCount p ≠ 1 := fun hc => h (by omega)
    have hs : (a.releaseBlock cb p).freeFlags = a.freeFlags := by
      simp [releaseBlock, hne, h]
    by_cases hr : r = p
    · subst hr
      have hf := isFree_eq_false hv hne
      simpa [isFree, hs, h1] using hf
    · simp [isFree, hs, hr]

lemma releaseBlock_valid (hv : a.Valid) {p : ℕ} (hp : 0 < a.getRefCount p) :
    (a.releaseBlock cb p).Valid where
  flags := by
    rw [releaseBlock_numBlocks, ← hv.flags]
    simp only [releaseBlock]
    split_ifs <;> simp
  refs := by
    rw [releaseBlock_numBlocks, ← hv.refs, releaseBlock_refs cb a hp, List.length_set]
  free_iff := by
    intro r hr
    rw [releaseBlock_numBlocks] at hr
    rw [isFree_releaseBlock cb hv hp, getRefCount_releaseBlock cb hv hp]
    by_cases h : r = p
    · simp only [h, if_true, decide_eq_true_eq]
      omega
    · simpa [h] using hv.free_iff r hr

lemma listener_releaseBlock (a : BlockAllocator ε) {p : ℕ} (hp : 0 < a.getRefCount p) :
    (a.releaseBlock cb p).listener =
      if a.getRefCount p = 1 then cb.onFree a.listener p else a.listener := by
  have hne : a.getRefCount p ≠ 0 := ne_of_gt hp
  by_cases h : a.getRefCount p - 1 = 0
  · have h1 : a.getRefCount p = 1 := by omega
    simp [releaseBlock, h1]
  · have h1 : a.getRefCount p ≠ 1 := fun hc => h (by omega)
    simp [releaseBlock, hne, h, h1]

structure Freed (ids : List ℕ) (a b : BlockAllocator ε) : Prop where
  valid : b.Valid
  numBlocks : b.numBlocks = a.numBlocks
  refCount : ∀ p, b.getRefCount p = a.getRefCount p - ids.count p
  listener : ∃ released : List ℕ, b.listener = released.foldl cb.onFree a.listener ∧
    ∀ p, p ∈ released ↔ p ∈ ids ∧ b.getRefCount p = 0

theorem free_spec (ids : List ℕ) (hv : a.Valid) (hc : ∀ p ∈ ids, (ids.count p : ℤ) ≤ a.getRefCount p) :
    Freed cb ids a (a.free cb ids) := by
  induction ids generalizing a with
  | nil =>
    exact ⟨hv, rfl, fun p => by simp [free], [], rfl, fun p => by simp⟩
  | cons q rest ih =>
    have hq : 0 < a.getRefCount q := by
      have := hc q (by simp)
      simp only [List.count_cons_self, Nat.cast_add, Nat.cast_one] at this
      omega
    have href := getRefCount_releaseBlock cb hv hq
    have hrest : ∀ p ∈ rest, (rest.count p : ℤ) ≤ (a.releaseBlock cb q).getRefCount p := by
      intro p hp
      have h := hc p (List.mem_cons_of_mem q hp)
      rw [href]
      by_cases hpq : p = q
      · subst hpq
        simp only [List.count_cons_self, Nat.cast_add, Nat.cast_one] at h
        simp only [if_true]
        omega
      · simpa [hpq, List.count_cons_of_ne (Ne.symm hpq)] using h
    have hf := ih (releaseBlock_valid cb hv hq) hrest
    obtain ⟨released, hl, hm⟩ := hf.listener
    have hcount : ∀ p, (a.free cb (q :: rest)).getRefCount p = a.getRefCount p - (q :: rest).count p := by
      intro p
      have h := hf.refCount p
      rw [href] at h
      refine h.trans ?_
      by_cases hpq : p = q
      · subst hpq
        simp only [if_true, List.count_cons_self, Nat.cast_add, Nat.cast_one]
        omega
      · simp [hpq, List.count_cons_of_ne (Ne.symm hpq)]
    refine ⟨hf.valid, hf.numBlocks.trans (releaseBlock_numBlocks cb a q), hcount, ?_⟩
    have hl' := listener_releaseBlock cb a hq
    by_cases h1 : a.getRefCount q = 1
    · refine ⟨q :: released, ?_, fun p => ?_⟩
      · simpa [h1, hl', free] using hl
      · have hz : (a.free cb (q :: rest)).getRefCount q = 0 := by
          have h := hcount q
          have hle := hc q (by simp)
          simp only [List.count_cons_self, Nat.cast_add, Nat.cast_one] at h hle
          omega
        by_cases hpq : p = q
        · simp [hpq, hz]
        · simpa only [List.mem_cons, hpq, false_or] using! hm p
    · refine ⟨released, ?_, fun p => ?_⟩
      · simpa [h1, hl', free] using hl
      · by_cases hpq : p = q
        · subst hpq
          refine (hm p).trans ⟨fun h => ⟨by simp, h.2⟩, fun h => ⟨?_, h.2⟩⟩
          by_contra hnot
          have hr := hf.refCount p
          have hz : (a.free cb (p :: rest)).getRefCount p = 0 := h.2
          rw [href, List.count_eq_zero_of_not_mem hnot] at hr
          simp only [if_true, Nat.cast_zero] at hr
          have : ((a.releaseBlock cb p).free cb rest).getRefCount p = 0 := hz
          omega
        · simpa only [List.mem_cons, hpq, false_or] using! hm p

end BlockAllocator

end MiniVllm
