import MiniVllm.CacheProofs.Allocator
import Mathlib.Logic.Relation

/-! What `allocate(n)` takes, in every state that the allocator can reach. -/

namespace MiniVllm

namespace BlockAllocator

variable {ε : Type} (cb : Callbacks ε)

section FreeIds

lemma length_freeIds (i : ℕ) (flags : List Bool) : (freeIds i flags).length = flags.countP (· = true) := by
  induction flags generalizing i with
  | nil => rfl
  | cons flag flags ih =>
    cases flag with
    | true => simp [freeIds, ih]
    | false => simp [freeIds, ih]

lemma mem_freeIds {i p : ℕ} {flags : List Bool} :
    p ∈ freeIds i flags ↔ ∃ k, p = i + k ∧ flags.getD k false = true := by
  induction flags generalizing i with
  | nil => simp [freeIds]
  | cons flag flags ih =>
    have hnext : (∃ k, p = i + 1 + k ∧ flags.getD k false = true) ↔
        ∃ k, p = i + (k + 1) ∧ (flag :: flags).getD (k + 1) false = true := by
      apply exists_congr
      intro k
      rw [List.getD_cons_succ, Nat.add_assoc, Nat.add_comm 1 k]
    have hsplit : (∃ k, p = i + k ∧ (flag :: flags).getD k false = true) ↔
        (p = i ∧ flag = true) ∨ ∃ k, p = i + (k + 1) ∧ (flag :: flags).getD (k + 1) false = true := by
      constructor
      · rintro ⟨k, hk, hf⟩
        cases k with
        | zero => exact Or.inl ⟨hk, hf⟩
        | succ k => exact Or.inr ⟨k, hk, hf⟩
      · rintro (⟨hp, hf⟩ | ⟨k, hk, hf⟩)
        · exact ⟨0, hp, hf⟩
        · exact ⟨k + 1, hk, hf⟩
    rw [hsplit, ← hnext, ← ih]
    cases flag with
    | true => simp [freeIds]
    | false => simp [freeIds]

lemma nodup_freeIds (i : ℕ) (flags : List Bool) : (freeIds i flags).Nodup := by
  induction flags generalizing i with
  | nil => exact List.nodup_nil
  | cons flag flags ih =>
    cases flag with
    | false => exact ih (i + 1)
    | true =>
      refine List.nodup_cons.mpr ⟨fun hm => ?_, ih (i + 1)⟩
      obtain ⟨k, hk, -⟩ := mem_freeIds.mp hm
      omega

lemma scanFree_eq (n i : ℕ) (flags : List Bool) (indices : List ℕ) : scanFree n i flags indices =
    indices ++ if indices.length < n then (freeIds i flags).take (n - indices.length) else freeIds i flags := by
  induction flags generalizing i indices with
  | nil => simp [scanFree, freeIds]
  | cons flag flags ih =>
    cases flag with
    | false => simpa only [scanFree, freeIds] using ih (i + 1) indices
    | true =>
      simp only [scanFree, freeIds, List.length_append, List.length_singleton]
      by_cases hstop : indices.length + 1 = n
      · have htake : n - indices.length = 1 := by omega
        rw [if_pos hstop, if_pos (by omega), htake, List.take_succ_cons, List.take_zero]
      · rw [if_neg hstop, ih, List.append_assoc, List.length_append, List.length_singleton]
        by_cases hlt : indices.length < n
        · have htake : n - indices.length = n - (indices.length + 1) + 1 := by omega
          rw [if_pos hlt, if_pos (by omega), htake, List.take_succ_cons, List.singleton_append]
        · rw [if_neg hlt, if_neg (by omega), List.singleton_append]

end FreeIds

section Allocate

variable {a : BlockAllocator ε}

lemma mem_dumpFreeList {p : ℕ} : p ∈ a.dumpFreeList ↔ a.isFree p = true := by
  rw [dumpFreeList, mem_freeIds]
  constructor
  · rintro ⟨k, hk, hf⟩
    rw [Nat.zero_add] at hk
    exact hk ▸ hf
  · intro hf
    exact ⟨p, (Nat.zero_add p).symm, hf⟩

lemma length_dumpFreeList : a.dumpFreeList.length = a.numFreeBlocks := length_freeIds 0 a.freeFlags

structure Grants (ids : List ℕ) (a b : BlockAllocator ε) : Prop where
  valid : b.Valid
  numBlocks : b.numBlocks = a.numBlocks
  isFree : ∀ p, b.isFree p = if p ∈ ids then false else a.isFree p
  refCount : ∀ p, b.getRefCount p = if p ∈ ids then 1 else a.getRefCount p
  listener : b.listener = ids.foldl cb.onAllocate a.listener

lemma takeBlocks_grants (ids : List ℕ) (hv : a.Valid) (hn : ids.Nodup) (hfree : ∀ p ∈ ids, a.isFree p = true) :
    Grants cb ids a (ids.foldl (takeBlock cb) a) := by
  induction ids generalizing a with
  | nil => exact ⟨hv, rfl, fun p => by simp, fun p => by simp, rfl⟩
  | cons q ids ih =>
    obtain ⟨hq, hids⟩ := List.nodup_cons.mp hn
    have hqfree := hfree q List.mem_cons_self
    have hf := isFree_takeBlock cb hv hqfree
    have hr := getRefCount_takeBlock cb hv hqfree
    have hrest : ∀ p ∈ ids, (a.takeBlock cb q).isFree p = true := by
      intro p hp
      have hne : p ≠ q := fun h => hq (h ▸ hp)
      rw [hf, if_neg hne]
      exact hfree p (List.mem_cons_of_mem q hp)
    have hg := ih (takeBlock_valid cb hv hqfree) hids hrest
    refine ⟨hg.valid, hg.numBlocks, fun p => ?_, fun p => ?_, hg.listener⟩
    · have hp := hg.isFree p
      rw [hf] at hp
      rw [List.foldl_cons, hp]
      by_cases hpq : p = q <;> simp [hpq, hq]
    · have hp := hg.refCount p
      rw [hr] at hp
      rw [List.foldl_cons, hp]
      by_cases hpq : p = q <;> simp [hpq, hq]

structure AllocateContract (a : BlockAllocator ε) (n : ℕ) : Prop where
  refused : a.numFreeBlocks < n → a.allocate cb n = (none, a)
  granted : n ≤ a.numFreeBlocks → ∃ ids b, a.allocate cb n = (some ids, b) ∧ ids.length = n ∧ ids.Nodup ∧
    (∀ p ∈ ids, a.isFree p = true) ∧ Grants cb ids a b

lemma allocate_refused {n : ℕ} (h : a.numFreeBlocks < n) : a.allocate cb n = (none, a) := by
  rw [allocate, if_pos h]

lemma allocate_take {n : ℕ} (hpos : 0 < n) (h : n ≤ a.numFreeBlocks) : a.allocate cb n =
    (some (a.dumpFreeList.take n), (a.dumpFreeList.take n).foldl (takeBlock cb) a) := by
  have hscan : scanFree n 0 a.freeFlags [] = a.dumpFreeList.take n := by
    rw [scanFree_eq, List.nil_append, List.length_nil, if_pos hpos, Nat.sub_zero]
    rfl
  rw [allocate, if_neg (Nat.not_lt.mpr h)]
  simp only [hscan]

lemma allocate_zero : a.allocate cb 0 = (some a.dumpFreeList, a.dumpFreeList.foldl (takeBlock cb) a) := by
  have hscan : scanFree 0 0 a.freeFlags [] = a.dumpFreeList := by
    rw [scanFree_eq, List.nil_append, List.length_nil, if_neg (Nat.lt_irrefl 0)]
    rfl
  rw [allocate, if_neg (Nat.not_lt_zero _)]
  simp only [hscan]

lemma allocate_granted {n : ℕ} (hn : 0 < n ∨ a.numFreeBlocks = 0) (h : n ≤ a.numFreeBlocks) :
    a.allocate cb n = (some (a.dumpFreeList.take n), (a.dumpFreeList.take n).foldl (takeBlock cb) a) := by
  rcases Nat.eq_zero_or_pos n with rfl | hpos
  · have hz : a.numFreeBlocks = 0 := hn.resolve_left (Nat.lt_irrefl 0)
    have hnil : a.dumpFreeList = [] := List.length_eq_zero_iff.mp (length_dumpFreeList.trans hz)
    rw [allocate_zero, hnil, List.take_nil]
  · exact allocate_take cb hpos h

theorem allocateContract_iff (hv : a.Valid) (n : ℕ) :
    AllocateContract cb a n ↔ 0 < n ∨ a.numFreeBlocks = 0 := by
  constructor
  · intro hc
    rcases Nat.eq_zero_or_pos n with rfl | hpos
    · obtain ⟨ids, b, hids, hlen, -⟩ := hc.granted (Nat.zero_le _)
      rw [allocate_zero] at hids
      obtain rfl : a.dumpFreeList = ids := Option.some.inj (congrArg Prod.fst hids)
      exact Or.inr (length_dumpFreeList.symm.trans hlen)
    · exact Or.inl hpos
  · intro hn
    refine ⟨allocate_refused cb, fun h => ?_⟩
    have hfree : ∀ p ∈ a.dumpFreeList.take n, a.isFree p = true := fun p hp =>
      mem_dumpFreeList.mp (List.mem_of_mem_take hp)
    have hnodup : (a.dumpFreeList.take n).Nodup := (nodup_freeIds 0 a.freeFlags).sublist (List.take_sublist _ _)
    refine ⟨_, _, allocate_granted cb hn h, ?_, hnodup, hfree, takeBlocks_grants cb _ hv hnodup hfree⟩
    rw [List.length_take, length_dumpFreeList, min_eq_left h]

end Allocate

inductive Operation (a : BlockAllocator ε) : BlockAllocator ε → Prop
  | allocate (n : ℕ) : Operation a (a.allocate cb n).2
  | free (physicalBlockIds : List ℕ) : Operation a (a.free cb physicalBlockIds)
  | incrementRef (pid : ℕ) (b : BlockAllocator ε) (h : a.incrementRef pid = .ok b) : Operation a b

def Reachable (numBlocks : ℕ) (listener : ε) : BlockAllocator ε → Prop :=
  Relation.ReflTransGen (Operation cb) (initial numBlocks listener)

structure Counted (a : BlockAllocator ε) : Prop where
  valid : a.Valid
  nonneg : ∀ p, 0 ≤ a.getRefCount p

section Counted

variable {a b : BlockAllocator ε}

lemma initial_counted (n : ℕ) (x : ε) : (initial n x).Counted where
  valid := initial_valid n x
  nonneg := by
    intro p
    simp only [getRefCount, initial, List.getD_eq_getElem?_getD, List.getElem?_replicate]
    split_ifs <;> exact le_refl 0

lemma Grants.counted {ids : List ℕ} (ha : a.Counted) (h : Grants cb ids a b) : b.Counted where
  valid := h.valid
  nonneg := by
    intro p
    rw [h.refCount]
    split_ifs
    · exact zero_le_one
    · exact ha.nonneg p

lemma allocate_counted (ha : a.Counted) (n : ℕ) : (a.allocate cb n).2.Counted := by
  rcases Nat.lt_or_ge a.numFreeBlocks n with hlt | hle
  · rw [allocate_refused cb hlt]
    exact ha
  · have hfree : ∀ p ∈ a.dumpFreeList.take n, a.isFree p = true := fun p hp =>
      mem_dumpFreeList.mp (List.mem_of_mem_take hp)
    have hnodup := nodup_freeIds 0 a.freeFlags
    rcases Nat.eq_zero_or_pos n with rfl | hpos
    · rw [allocate_zero]
      apply Grants.counted cb ha
      exact takeBlocks_grants cb _ ha.valid hnodup fun p => mem_dumpFreeList.mp
    · rw [allocate_take cb hpos hle]
      apply Grants.counted cb ha
      exact takeBlocks_grants cb _ ha.valid (hnodup.sublist (List.take_sublist _ _)) hfree

lemma releaseBlock_counted (ha : a.Counted) (p : ℕ) : (a.releaseBlock cb p).Counted := by
  rcases (ha.nonneg p).eq_or_lt with hz | hpos
  · rw [releaseBlock, if_pos hz.symm]
    exact ha
  · refine ⟨releaseBlock_valid cb ha.valid hpos, fun r => ?_⟩
    rw [getRefCount_releaseBlock cb ha.valid hpos]
    split_ifs
    · omega
    · exact ha.nonneg r

lemma free_counted (ha : a.Counted) (ids : List ℕ) : (a.free cb ids).Counted := by
  induction ids generalizing a with
  | nil => exact ha
  | cons p ids ih => exact ih (releaseBlock_counted cb ha p)

lemma incrementRef_counted (ha : a.Counted) {p : ℕ} (h : a.incrementRef p = .ok b) : b.Counted := by
  rw [incrementRef] at h
  split_ifs at h with hfree
  obtain rfl : a.addRef p = b := Except.ok.inj h
  rcases (ha.nonneg p).eq_or_lt with hz | hpos
  · -- Only a number past the last block is neither free nor referred to.
    have hge : a.refCounts.length ≤ p := by
      by_contra hlt
      rw [Nat.not_le, ha.valid.refs] at hlt
      exact hfree ((ha.valid.free_iff p hlt).mpr hz.symm)
    have hsame : a.addRef p = a := by
      rw [addRef, List.set_eq_of_length_le hge]
    rw [hsame]
    exact ha
  · refine ⟨addRef_valid ha.valid hpos, fun r => ?_⟩
    rw [getRefCount_addRef ha.valid hpos]
    split_ifs
    · omega
    · exact ha.nonneg r

lemma Operation.counted (ha : a.Counted) (h : Operation cb a b) : b.Counted := by
  cases h with
  | allocate n => exact allocate_counted cb ha n
  | free ids => exact free_counted cb ha ids
  | incrementRef p b h => exact incrementRef_counted ha h

theorem Reachable.counted {n : ℕ} {x : ε} (h : Reachable cb n x a) : a.Counted := by
  induction h with
  | refl => exact initial_counted n x
  | tail _ hop ih => exact hop.counted cb ih

end Counted

theorem allocate_contract {a : BlockAllocator ε} {numBlocks : ℕ} {listener : ε}
    (h : Reachable cb numBlocks listener a) (n : ℕ) :
    AllocateContract cb a n ↔ 0 < n ∨ a.numFreeBlocks = 0 :=
  allocateContract_iff cb (h.counted cb).valid n

def silent : Callbacks Unit where
  onAllocate := fun _ _ => ()
  onFree := fun _ _ => ()

def twoTaken : BlockAllocator Unit := ((initial 3 ()).allocate silent 2).2

def sharedAndFreed : BlockAllocator Unit :=
  ({ twoTaken with refCounts := twoTaken.refCounts.set 0 2 } : BlockAllocator Unit).free silent [1]

lemma sharedAndFreed_reachable : Reachable silent 3 () sharedAndFreed := by
  have htaken : Reachable silent 3 () twoTaken := Relation.ReflTransGen.single (.allocate 2)
  have hshared := htaken.tail (.incrementRef 0 { twoTaken with refCounts := twoTaken.refCounts.set 0 2 } rfl)
  exact hshared.tail (.free [1])

theorem allocate_contract_sharedAndFreed : sharedAndFreed.refCounts = [2, 0, 0] ∧
    sharedAndFreed.freeFlags = [false, true, true] ∧
    (AllocateContract silent sharedAndFreed 2 ↔ 0 < 2 ∨ sharedAndFreed.numFreeBlocks = 0) :=
  ⟨rfl, rfl, allocate_contract silent sharedAndFreed_reachable 2⟩

theorem allocate_zero_breaks_contract :
    ¬ ∀ (numBlocks n : ℕ) (a : BlockAllocator Unit), Reachable silent numBlocks () a → AllocateContract silent a n := by
  intro hall
  obtain ⟨ids, b, hids, hlen, -⟩ := (hall 1 0 _ Relation.ReflTransGen.refl).granted (Nat.zero_le _)
  rw [allocate_zero] at hids
  obtain rfl : [0] = ids := Option.some.inj (congrArg Prod.fst hids)
  cases hlen

end BlockAllocator

end MiniVllm
