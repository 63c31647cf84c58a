import MiniVllm.CacheProofs.Allocations
import MiniVllm.Executor.Fake

/-! The two arrays of the allocator agree, and the callbacks mirror the blocks in use. -/

namespace MiniVllm

namespace BlockAllocator

inductive Announcement
  | allocated (pid : ℕ)
  | freed (pid : ℕ)
  deriving DecidableEq

def Announcement.block : Announcement → ℕ
  | allocated pid => pid
  | freed pid => pid

def recording : Callbacks (List Announcement) where
  onAllocate := fun log pid => log ++ [.allocated pid]
  onFree := fun log pid => log ++ [.freed pid]

def announce {ε : Type} (cb : Callbacks ε) (x : ε) : Announcement → ε
  | .allocated pid => cb.onAllocate x pid
  | .freed pid => cb.onFree x pid

def alternation (p : ℕ) : ℕ → List Announcement
  | 0 => []
  | k + 1 => alternation p k ++ [if k % 2 = 0 then .allocated p else .freed p]

def Alternates (p : ℕ) (log : List Announcement) : Prop := ∃ k, log.filter (·.block = p) = alternation p k

def note (s : Finset ℕ) : Announcement → Finset ℕ
  | .allocated pid => insert pid s
  | .freed pid => s.erase pid

def outstanding (log : List Announcement) : Finset ℕ := log.foldl note ∅

inductive Request
  | allocate (numBlocks : ℤ)
  | free (physicalBlockIds : List ℕ)
  | incrementRef (pid : ℕ)

/-- A number of blocks below zero is no length, so that `allocate` scans as for zero. -/
inductive Handles {ε : Type} (cb : Callbacks ε) (a : BlockAllocator ε) : Request → BlockAllocator ε → Prop
  | allocate (n : ℤ) : Handles cb a (.allocate n) (a.allocate cb n.toNat).2
  | free (ids : List ℕ) (h : ∀ p ∈ ids, p < a.numBlocks) : Handles cb a (.free ids) (a.free cb ids)
  | incrementRef (pid : ℕ) (b : BlockAllocator ε) (hp : pid < a.numBlocks) (h : a.incrementRef pid = .ok b) :
    Handles cb a (.incrementRef pid) b

inductive HandlesAll {ε : Type} (cb : Callbacks ε) : BlockAllocator ε → List Request → BlockAllocator ε → Prop
  | nil (a : BlockAllocator ε) : HandlesAll cb a [] a
  | cons {a b c : BlockAllocator ε} {r : Request} {rs : List Request} (h : Handles cb a r b)
    (ht : HandlesAll cb b rs c) : HandlesAll cb a (r :: rs) c

def blocksInUse {ε : Type} (a : BlockAllocator ε) : Finset ℕ :=
  (Finset.range a.numBlocks).filter (fun p => a.isFree p = false)

section CheckInvariants

variable {ε : Type} {a : BlockAllocator ε}

lemma freeFlags_eq (hv : a.Valid) : a.freeFlags = (List.range a.numBlocks).map a.isFree := by
  apply List.ext_getElem
  · rw [hv.flags, List.length_map, List.length_range]
  · intro p hp _
    simp [isFree, hp]

lemma numFreeBlocks_eq_countP (hv : a.Valid) :
    a.numFreeBlocks = (List.range a.numBlocks).countP (fun p => a.isFree p = true) := by
  rw [numFreeBlocks, freeFlags_eq hv, List.countP_map]
  rfl

lemma free_add_used (hv : a.Valid) :
    a.numFreeBlocks + (List.range a.numBlocks).countP (fun p => a.isFree p = false) = a.numBlocks := by
  have hsplit := List.length_eq_countP_add_countP (fun p => decide (a.isFree p = true)) (l := List.range a.numBlocks)
  simp only [List.length_range, decide_eq_true_eq, Bool.not_eq_true] at hsplit
  rw [numFreeBlocks_eq_countP hv]
  exact hsplit.symm

lemma foldl_checkBlock (hv : a.Valid) (is : List ℕ) (n : ℕ) (h : ∀ i ∈ is, i < a.numBlocks) :
    is.foldl a.checkBlock ([], n) = ([], n + is.countP (fun p => a.isFree p = false)) := by
  induction is generalizing n with
  | nil => rfl
  | cons i is ih =>
    have hrest := fun m => ih m fun j hj => h j (List.mem_cons_of_mem i hj)
    have hi := hv.free_iff i (h i List.mem_cons_self)
    cases hf : a.isFree i with
    | true =>
      have hz := hi.mp hf
      simp [checkBlock, hf, hz, hrest]
    | false =>
      have hz : a.getRefCount i ≠ 0 := fun hc => by simp [hi.mpr hc] at hf
      have hstep : a.checkBlock ([], n) i = ([], n + 1) := by simp [checkBlock, hf, hz]
      rw [List.foldl_cons, hstep, hrest, List.countP_cons_of_pos (by simp [hf]), Nat.add_assoc, Nat.add_comm 1]

lemma checkInvariants_nil (hv : a.Valid) : a.checkInvariants = [] := by
  have hloop := foldl_checkBlock hv (List.range a.numBlocks) 0 fun i => List.mem_range.mp
  have hsum := free_add_used hv
  rw [checkInvariants, hloop]
  apply if_neg
  simp only [ne_eq, not_not]
  omega

lemma free_add_numUsedBlocks (hv : a.Valid) : a.numFreeBlocks + a.numUsedBlocks = a.numTotalBlocks := by
  have hsum := free_add_used hv
  rw [numUsedBlocks, numTotalBlocks]
  omega

end CheckInvariants

section SameBlocks

variable {ε δ : Type} {cb : Callbacks ε} {cb' : Callbacks δ} {R : ε → δ → Prop}

structure Respects (cb : Callbacks ε) (cb' : Callbacks δ) (R : ε → δ → Prop) : Prop where
  onAllocate : ∀ x y p, R x y → R (cb.onAllocate x p) (cb'.onAllocate y p)
  onFree : ∀ x y p, R x y → R (cb.onFree x p) (cb'.onFree y p)

structure SameBlocks (R : ε → δ → Prop) (a : BlockAllocator ε) (b : BlockAllocator δ) : Prop where
  numBlocks : b.numBlocks = a.numBlocks
  freeFlags : b.freeFlags = a.freeFlags
  refCounts : b.refCounts = a.refCounts
  listener : R a.listener b.listener

variable {a : BlockAllocator ε} {b : BlockAllocator δ}

lemma SameBlocks.getRefCount (h : SameBlocks R a b) (p : ℕ) : b.getRefCount p = a.getRefCount p := by
  rw [BlockAllocator.getRefCount, BlockAllocator.getRefCount, h.refCounts]

lemma SameBlocks.isFree (h : SameBlocks R a b) (p : ℕ) : b.isFree p = a.isFree p := by
  rw [BlockAllocator.isFree, BlockAllocator.isFree, h.freeFlags]

lemma SameBlocks.takeBlock (hR : Respects cb cb' R) (h : SameBlocks R a b) (p : ℕ) :
    SameBlocks R (a.takeBlock cb p) (b.takeBlock cb' p) where
  numBlocks := h.numBlocks
  freeFlags := congrArg (fun flags => flags.set p false) h.freeFlags
  refCounts := congrArg (fun counts => counts.set p 1) h.refCounts
  listener := hR.onAllocate _ _ p h.listener

lemma SameBlocks.takeBlocks (hR : Respects cb cb' R) (h : SameBlocks R a b) (ids : List ℕ) :
    SameBlocks R (ids.foldl (BlockAllocator.takeBlock cb) a) (ids.foldl (BlockAllocator.takeBlock cb') b) := by
  induction ids generalizing a b with
  | nil => exact h
  | cons p ids ih => exact ih (h.takeBlock hR p)

lemma SameBlocks.allocate (hR : Respects cb cb' R) (h : SameBlocks R a b) (n : ℕ) :
    SameBlocks R (a.allocate cb n).2 (b.allocate cb' n).2 := by
  have hfree : b.numFreeBlocks = a.numFreeBlocks := by rw [numFreeBlocks, numFreeBlocks, h.freeFlags]
  rw [BlockAllocator.allocate, BlockAllocator.allocate, hfree, h.freeFlags]
  by_cases hn : n > a.numFreeBlocks
  · simp only [if_pos hn]
    exact h
  · simp only [if_neg hn]
    exact h.takeBlocks hR _

lemma SameBlocks.releaseBlock (hR : Respects cb cb' R) (h : SameBlocks R a b) (p : ℕ) :
    SameBlocks R (a.releaseBlock cb p) (b.releaseBlock cb' p) := by
  rw [BlockAllocator.releaseBlock, BlockAllocator.releaseBlock, h.getRefCount]
  by_cases hz : a.getRefCount p = 0
  · rw [if_pos hz, if_pos hz]
    exact h
  · rw [if_neg hz, if_neg hz]
    by_cases hlast : a.getRefCount p - 1 = 0
    · rw [if_pos hlast, if_pos hlast]
      exact ⟨h.numBlocks, congrArg (fun flags => flags.set p true) h.freeFlags,
        congrArg (fun counts => counts.set p (a.getRefCount p - 1)) h.refCounts, hR.onFree _ _ p h.listener⟩
    · rw [if_neg hlast, if_neg hlast]
      exact ⟨h.numBlocks, h.freeFlags, congrArg (fun counts => counts.set p (a.getRefCount p - 1)) h.refCounts,
        h.listener⟩

lemma SameBlocks.free (hR : Respects cb cb' R) (h : SameBlocks R a b) (ids : List ℕ) :
    SameBlocks R (a.free cb ids) (b.free cb' ids) := by
  induction ids generalizing a b with
  | nil => exact h
  | cons p ids ih => exact ih (h.releaseBlock hR p)

lemma Handles.same (hR : Respects cb cb' R) (h : SameBlocks R a b) {r : Request} {a' : BlockAllocator ε}
    (hr : Handles cb a r a') : ∃ b', Handles cb' b r b' ∧ SameBlocks R a' b' := by
  cases hr with
  | allocate n => exact ⟨_, Handles.allocate n, h.allocate hR _⟩
  | free ids hids =>
    refine ⟨_, Handles.free ids fun p hp => ?_, h.free hR ids⟩
    rw [h.numBlocks]
    exact hids p hp
  | incrementRef pid _ hp hok =>
    rw [BlockAllocator.incrementRef] at hok
    split_ifs at hok with hfree
    obtain rfl : a.addRef pid = a' := Except.ok.inj hok
    refine ⟨b.addRef pid, Handles.incrementRef pid _ (h.numBlocks ▸ hp) ?_, h.numBlocks, h.freeFlags, ?_, h.listener⟩
    · rw [BlockAllocator.incrementRef, h.isFree, if_neg hfree]
      rfl
    · rw [addRef, addRef, h.getRefCount, h.refCounts]

lemma HandlesAll.same (hR : Respects cb cb' R) {rs : List Request} {a' : BlockAllocator ε}
    (hr : HandlesAll cb a rs a') (h : SameBlocks R a b) : ∃ b', HandlesAll cb' b rs b' ∧ SameBlocks R a' b' := by
  induction hr generalizing b with
  | nil a => exact ⟨b, HandlesAll.nil b, h⟩
  | cons hfirst _ ih =>
    obtain ⟨c, hc, hac⟩ := hfirst.same hR h
    obtain ⟨d, hd, hbd⟩ := ih hac
    exact ⟨d, HandlesAll.cons hc hd, hbd⟩

end SameBlocks

section Recorded

lemma filter_append_other {log : List Announcement} {e : Announcement} {p : ℕ} (h : e.block ≠ p) :
    (log ++ [e]).filter (·.block = p) = log.filter (·.block = p) := by
  simp [List.filter_append, h]

lemma filter_append_same {log : List Announcement} {e : Announcement} {p k : ℕ} (hp : e.block = p)
    (hlog : log.filter (·.block = p) = alternation p k) (he : e = if k % 2 = 0 then .allocated p else .freed p) :
    (log ++ [e]).filter (·.block = p) = alternation p (k + 1) := by
  rw [alternation, ← hlog, ← he, List.filter_append]
  simp [hp]

lemma outstanding_append (log : List Announcement) (e : Announcement) :
    outstanding (log ++ [e]) = note (outstanding log) e := by
  rw [outstanding, outstanding, List.foldl_append, List.foldl_cons, List.foldl_nil]

structure Recorded (l : BlockAllocator (List Announcement)) : Prop where
  counted : l.Counted
  turns : ∀ p, ∃ k, l.listener.filter (·.block = p) = alternation p k ∧ (k % 2 = 1 ↔ 0 < l.getRefCount p)
  outstanding : ∀ p, p ∈ outstanding l.listener ↔ 0 < l.getRefCount p

lemma initial_recorded (n : ℕ) : Recorded (initial n []) := by
  have hz : ∀ p, (initial n ([] : List Announcement)).getRefCount p = 0 := by
    intro p
    simp only [getRefCount, initial, List.getD_eq_getElem?_getD, List.getElem?_replicate]
    split_ifs <;> rfl
  refine ⟨initial_counted n [], fun p => ⟨0, rfl, ?_⟩, fun p => ?_⟩
  · simp [hz]
  · rw [hz]
    simp [initial, BlockAllocator.outstanding]

variable {l : BlockAllocator (List Announcement)}

lemma Recorded.takeBlock (h : Recorded l) {p : ℕ} (hp : l.isFree p = true) :
    Recorded (l.takeBlock recording p) := by
  have hcount := getRefCount_takeBlock recording h.counted.valid hp
  have hzero := getRefCount_of_isFree h.counted.valid hp
  refine ⟨⟨takeBlock_valid recording h.counted.valid hp, fun q => ?_⟩, fun q => ?_, fun q => ?_⟩
  · rw [hcount]
    split_ifs
    · exact zero_le_one
    · exact h.counted.nonneg q
  · obtain ⟨k, hk, hodd⟩ := h.turns q
    rw [hcount]
    by_cases hq : q = p
    · subst hq
      have heven : k % 2 = 0 := by omega
      refine ⟨k + 1, filter_append_same rfl hk ?_, ?_⟩
      · rw [if_pos heven]
      · simp only [if_true]
        omega
    · refine ⟨k, (filter_append_other (Ne.symm hq)).trans hk, ?_⟩
      rw [if_neg hq]
      exact hodd
  · have hlog : (l.takeBlock recording p).listener = l.listener ++ [.allocated p] := rfl
    have hold := h.outstanding q
    rw [hlog, outstanding_append, note, Finset.mem_insert, hold, hcount]
    by_cases hq : q = p <;> simp [hq]

lemma Recorded.releaseBlock (h : Recorded l) (p : ℕ) : Recorded (l.releaseBlock recording p) := by
  rcases (h.counted.nonneg p).eq_or_lt with hz | hpos
  · rw [BlockAllocator.releaseBlock, if_pos hz.symm]
    exact h
  · have hcount := getRefCount_releaseBlock recording h.counted.valid hpos
    have hlog := listener_releaseBlock recording l hpos
    refine ⟨releaseBlock_counted recording h.counted p, fun q => ?_, fun q => ?_⟩
    · obtain ⟨k, hk, hodd⟩ := h.turns q
      rw [hcount, hlog]
      by_cases hlast : l.getRefCount p = 1
      · rw [if_pos hlast]
        by_cases hq : q = p
        · subst hq
          have hk1 : k % 2 = 1 := hodd.mpr hpos
          refine ⟨k + 1, filter_append_same rfl hk ?_, ?_⟩
          · rw [if_neg (by omega)]
          · simp only [if_true, hlast]
            omega
        · refine ⟨k, (filter_append_other (Ne.symm hq)).trans hk, ?_⟩
          rw [if_neg hq]
          exact hodd
      · rw [if_neg hlast]
        refine ⟨k, hk, ?_⟩
        split_ifs with hq
        · subst hq
          omega
        · exact hodd
    · have hold := h.outstanding q
      rw [hcount, hlog]
      by_cases hlast : l.getRefCount p = 1
      · rw [if_pos hlast]
        refine (Finset.ext_iff.mp (outstanding_append l.listener (.freed p)) q).trans ?_
        rw [note, Finset.mem_erase, hold]
        by_cases hq : q = p <;> simp [hq, hlast]
      · rw [if_neg hlast, hold]
        split_ifs with hq
        · subst hq
          omega
        · exact Iff.rfl

lemma Recorded.takeBlocks (h : Recorded l) (ids : List ℕ) (hn : ids.Nodup) (hfree : ∀ p ∈ ids, l.isFree p = true) :
    Recorded (ids.foldl (BlockAllocator.takeBlock recording) l) := by
  induction ids generalizing l with
  | nil => exact h
  | cons q ids ih =>
    obtain ⟨hq, hids⟩ := List.nodup_cons.mp hn
    have hqfree := hfree q List.mem_cons_self
    refine ih (h.takeBlock hqfree) hids fun p hp => ?_
    have hne : p ≠ q := fun hc => hq (hc ▸ hp)
    rw [isFree_takeBlock recording h.counted.valid hqfree, if_neg hne]
    exact hfree p (List.mem_cons_of_mem q hp)

lemma Recorded.allocate (h : Recorded l) (n : ℕ) : Recorded (l.allocate recording n).2 := by
  have hfree : ∀ p ∈ l.dumpFreeList, l.isFree p = true := fun p => mem_dumpFreeList.mp
  have hnodup : l.dumpFreeList.Nodup := nodup_freeIds 0 l.freeFlags
  rcases Nat.lt_or_ge l.numFreeBlocks n with hlt | hle
  · rw [allocate_refused recording hlt]
    exact h
  · rcases Nat.eq_zero_or_pos n with rfl | hpos
    · rw [allocate_zero]
      exact h.takeBlocks _ hnodup hfree
    · rw [allocate_take recording hpos hle]
      apply h.takeBlocks _ (hnodup.sublist (List.take_sublist n _))
      exact fun p hp => hfree p (List.mem_of_mem_take hp)

lemma Recorded.free (h : Recorded l) (ids : List ℕ) : Recorded (l.free recording ids) := by
  induction ids generalizing l with
  | nil => exact h
  | cons p ids ih => exact ih (h.releaseBlock p)

lemma Recorded.addRef (h : Recorded l) {p : ℕ} (hp : 0 < l.getRefCount p) : Recorded (l.addRef p) := by
  have hcount := getRefCount_addRef h.counted.valid hp
  have hpos : ∀ q, 0 < (l.addRef p).getRefCount q ↔ 0 < l.getRefCount q := by
    intro q
    rw [hcount]
    split_ifs with hq
    · subst hq
      omega
    · exact Iff.rfl
  refine ⟨⟨addRef_valid h.counted.valid hp, fun q => ?_⟩, fun q => ?_, fun q => ?_⟩
  · rw [hcount]
    split_ifs
    · omega
    · exact h.counted.nonneg q
  · obtain ⟨k, hk, hodd⟩ := h.turns q
    exact ⟨k, hk, hodd.trans (hpos q).symm⟩
  · exact (h.outstanding q).trans (hpos q).symm

lemma inUse_iff {ε : Type} {a : BlockAllocator ε} (ha : a.Counted) {p : ℕ} :
    0 < a.getRefCount p ↔ p < a.numBlocks ∧ a.isFree p = false := by
  constructor
  · intro hpos
    exact ⟨lt_of_getRefCount ha.valid (ne_of_gt hpos), isFree_eq_false ha.valid (ne_of_gt hpos)⟩
  · rintro ⟨hlt, hf⟩
    apply (ha.nonneg p).lt_of_ne
    intro hz
    rw [(ha.valid.free_iff p hlt).mpr hz.symm] at hf
    cases hf

lemma Handles.recorded (h : Recorded l) {r : Request} {l' : BlockAllocator (List Announcement)}
    (hr : Handles recording l r l') : Recorded l' := by
  cases hr with
  | allocate n => exact h.allocate _
  | free ids _ => exact h.free ids
  | incrementRef pid _ hp hok =>
    rw [BlockAllocator.incrementRef] at hok
    split_ifs at hok with hfree
    obtain rfl : l.addRef pid = l' := Except.ok.inj hok
    exact h.addRef ((inUse_iff h.counted).mpr ⟨hp, by simpa using hfree⟩)

lemma HandlesAll.recorded {rs : List Request} {l' : BlockAllocator (List Announcement)}
    (hr : HandlesAll recording l rs l') (h : Recorded l) : Recorded l' := by
  induction hr with
  | nil _ => exact h
  | cons hfirst _ ih => exact ih (hfirst.recorded h)

end Recorded

lemma announce_respects {ε : Type} (cb : Callbacks ε) (x : ε) :
    Respects cb recording (fun y log => y = log.foldl (announce cb) x) where
  onAllocate := by
    rintro _ log p rfl
    simp [recording, announce]
  onFree := by
    rintro _ log p rfl
    simp [recording, announce]

lemma keys_respects : Respects recording FakeModelExecutor.callbacks
    (fun log s => ∀ p, p ∈ s.kvCache.keys ↔ p ∈ outstanding log) where
  onAllocate := by
    intro log s q hs p
    have hset : p ∈ (s.kvCache.set q []).keys ↔ p = q ∨ p ∈ s.kvCache.keys := by
      rw [Dict.mem_keys_iff, Dict.mem_keys_iff, Dict.contains_set]
      simp
    rw [hs] at hset
    refine hset.trans ?_
    simp only [recording, outstanding_append, note, Finset.mem_insert]
  onFree := by
    intro log s q hs p
    have hpop : p ∈ (s.kvCache.pop q).keys ↔ p ≠ q ∧ p ∈ s.kvCache.keys := by
      rw [Dict.mem_keys_iff, Dict.mem_keys_iff, Dict.contains_pop]
      simp
    rw [hs] at hpop
    refine hpop.trans ?_
    simp only [recording, outstanding_append, note, Finset.mem_erase]

lemma SameBlocks.counted {ε δ : Type} {R : ε → δ → Prop} {a : BlockAllocator ε} {b : BlockAllocator δ}
    (h : SameBlocks R a b) (hb : b.Counted) : a.Counted where
  valid := by
    refine ⟨?_, ?_, fun p hp => ?_⟩
    · rw [← h.freeFlags, ← h.numBlocks]
      exact hb.valid.flags
    · rw [← h.refCounts, ← h.numBlocks]
      exact hb.valid.refs
    · rw [← h.isFree, ← h.getRefCount]
      exact hb.valid.free_iff p (h.numBlocks ▸ hp)
  nonneg := by
    intro p
    rw [← h.getRefCount]
    exact hb.nonneg p

structure Mirrored {ε : Type} (cb : Callbacks ε) (numBlocks : ℕ) (x : ε) (rs : List Request) (a : BlockAllocator ε)
    (log : List Announcement) : Prop where
  free_iff : ∀ p < numBlocks, (a.isFree p = true ↔ a.getRefCount p = 0)
  nonneg : ∀ p < numBlocks, 0 ≤ a.getRefCount p
  no_violation : a.checkInvariants = []
  free_add_used : a.numFreeBlocks + a.numUsedBlocks = a.numTotalBlocks
  recorded : ∃ l, HandlesAll recording (initial numBlocks []) rs l ∧ l.listener = log
  heard : a.listener = log.foldl (announce cb) x
  alternates : ∀ p, Alternates p log
  outstanding : outstanding log = a.blocksInUse
  keys : ∃ e, HandlesAll FakeModelExecutor.callbacks (initial numBlocks {}) rs e ∧
    ∀ p, p ∈ e.listener.kvCache.keys ↔ p ∈ a.blocksInUse

section NumBlocks

variable {ε : Type} {cb : Callbacks ε}

lemma foldl_numBlocks {f : BlockAllocator ε → ℕ → BlockAllocator ε} (hf : ∀ a p, (f a p).numBlocks = a.numBlocks)
    (ids : List ℕ) (a : BlockAllocator ε) : (ids.foldl f a).numBlocks = a.numBlocks := by
  induction ids generalizing a with
  | nil => rfl
  | cons p ids ih => exact (ih (f a p)).trans (hf a p)

lemma Handles.numBlocks {a b : BlockAllocator ε} {r : Request} (h : Handles cb a r b) : b.numBlocks = a.numBlocks := by
  cases h with
  | allocate n =>
    rw [BlockAllocator.allocate]
    split_ifs
    · rfl
    · have htake : ∀ (c : BlockAllocator ε) p, (c.takeBlock cb p).numBlocks = c.numBlocks := fun _ _ => rfl
      exact foldl_numBlocks htake _ a
  | free ids _ => exact foldl_numBlocks (releaseBlock_numBlocks cb) ids a
  | incrementRef pid _ _ hok =>
    rw [BlockAllocator.incrementRef] at hok
    split_ifs at hok
    obtain rfl := Except.ok.inj hok
    rfl

lemma HandlesAll.numBlocks {a b : BlockAllocator ε} {rs : List Request} (h : HandlesAll cb a rs b) :
    b.numBlocks = a.numBlocks := by
  induction h with
  | nil _ => rfl
  | cons hfirst _ ih => exact ih.trans hfirst.numBlocks

end NumBlocks

theorem handlesAll_mirrored {ε : Type} (cb : Callbacks ε) {numBlocks : ℕ} {x : ε} {rs : List Request}
    {a : BlockAllocator ε} (h : HandlesAll cb (initial numBlocks x) rs a) :
    ∃ log, Mirrored cb numBlocks x rs a log := by
  have hstart : SameBlocks (fun y log => y = log.foldl (announce cb) x) (initial numBlocks x) (initial numBlocks []) :=
    ⟨rfl, rfl, rfl, rfl⟩
  obtain ⟨l, hl, hal⟩ := h.same (announce_respects cb x) hstart
  have hrec := hl.recorded (initial_recorded numBlocks)
  have hkeys : SameBlocks (fun log s => ∀ p, p ∈ s.kvCache.keys ↔ p ∈ outstanding log)
      (initial numBlocks []) (initial numBlocks ({} : FakeState)) :=
    ⟨rfl, rfl, rfl, fun p => Iff.rfl⟩
  obtain ⟨e, he, hle⟩ := hl.same keys_respects hkeys
  have ha : a.Counted := hal.counted hrec.counted
  have hout : outstanding l.listener = a.blocksInUse := by
    apply Finset.ext
    intro p
    rw [hrec.outstanding, hal.getRefCount, inUse_iff ha, blocksInUse, Finset.mem_filter, Finset.mem_range]
  have hsize : a.numBlocks = numBlocks := h.numBlocks
  refine ⟨l.listener, ?_, fun p _ => ha.nonneg p, checkInvariants_nil ha.valid, free_add_numUsedBlocks ha.valid,
    ⟨l, hl, rfl⟩, hal.listener, fun p => ?_, hout, e, he, ?_⟩
  · rw [← hsize]
    exact ha.valid.free_iff
  · obtain ⟨k, hk, -⟩ := hrec.turns p
    exact ⟨k, hk⟩
  · rw [← hout]
    exact hle.listener

theorem handlesAll_mirrored_shared : ∃ log, Mirrored silent 3 ()
    [.allocate 2, .incrementRef 0, .free [0, 0, 1, 1], .allocate 1]
    (((((initial 3 ()).allocate silent 2).2.addRef 0).free silent [0, 0, 1, 1]).allocate silent 1).2 log := by
  apply handlesAll_mirrored silent
  apply HandlesAll.cons (Handles.allocate 2)
  apply HandlesAll.cons (Handles.incrementRef 0 _ (by decide) rfl)
  apply HandlesAll.cons (Handles.free [0, 0, 1, 1] (by decide))
  exact HandlesAll.cons (Handles.allocate 1) (HandlesAll.nil _)

end BlockAllocator

end MiniVllm
