import MiniVllm.Cache.Manager
import MiniVllm.CacheProofs.Allocator

/-! One specification for each operation of the block manager: sharing, taking, admitting, releasing. -/

namespace MiniVllm

namespace BlockManager

variable {ε : Type}

def entriesAt (bm : BlockManager ε) (p : ℕ) : ℕ := bm.tables.total (fun t => t.getBlockIds.count p)

/-- Reference counts agree with the tables. -/
structure Balanced (bm : BlockManager ε) : Prop where
  valid : bm.allocator.Valid
  refs : ∀ p, bm.allocator.getRefCount p = bm.entriesAt p

section Tables

variable (bm : BlockManager ε)

lemma getTable_of_get? {sid : SeqId} {t : BlockTable} (h : bm.tables.get? sid = some t) :
    bm.getTable sid = t := by
  simp [getTable, h]

lemma get?_of_contains {sid : SeqId} (h : bm.tables.contains sid) :
    bm.tables.get? sid = some (bm.getTable sid) := by
  obtain ⟨t, ht⟩ := Option.isSome_iff_exists.mp h
  rw [bm.getTable_of_get? ht, ht]

lemma contains_of_mem {sid : SeqId} {p : ℕ} (h : p ∈ bm.getBlockTable sid) : bm.tables.contains sid := by
  cases ht : bm.tables.get? sid with
  | none => simp [getBlockTable, getTable, ht] at h
  | some t => simp [Dict.contains, ht]

lemma total_set (sid : SeqId) (t : BlockTable) (p : ℕ) :
    (bm.tables.set sid t).total (fun t => t.getBlockIds.count p) + (bm.getBlockTable sid).count p =
      bm.entriesAt p + t.getBlockIds.count p := by
  cases ht : bm.tables.get? sid with
  | none =>
    simp [bm.tables.total_set_new _ sid t ht, getBlockTable, getTable, ht, entriesAt]
  | some u =>
    have h := bm.tables.total_set_old (fun t => t.getBlockIds.count p) sid t u ht
    simpa [getBlockTable, getTable, ht, entriesAt] using h

lemma count_le_entriesAt (sid : SeqId) (p : ℕ) : (bm.getBlockTable sid).count p ≤ bm.entriesAt p := by
  cases ht : bm.tables.get? sid with
  | none => simp [getBlockTable, getTable, ht]
  | some t =>
    have h := bm.tables.le_total (fun t => t.getBlockIds.count p) ht
    simpa [getBlockTable, getTable, ht, entriesAt] using h

lemma exists_of_entriesAt {p : ℕ} (h : 0 < bm.entriesAt p) : ∃ sid, p ∈ bm.getBlockTable sid := by
  obtain ⟨sid, t, ht, hpos⟩ := bm.tables.exists_of_total_pos _ h
  refine ⟨sid, ?_⟩
  rw [getBlockTable, bm.getTable_of_get? ht]
  exact List.count_pos_iff.mp hpos

lemma getBlockTable_eq_nil {sid : SeqId} (h : ¬ bm.tables.contains sid) : bm.getBlockTable sid = [] := by
  have hn : bm.tables.get? sid = none := by simpa [Dict.contains] using h
  simp [getBlockTable, getTable, hn]

end Tables

namespace Balanced

variable {bm : BlockManager ε} (hb : bm.Balanced)

include hb

lemma getRefCount_pos {sid : SeqId} {p : ℕ} (h : p ∈ bm.getBlockTable sid) :
    0 < bm.allocator.getRefCount p := by
  have hle := bm.count_le_entriesAt sid p
  have hpos := List.count_pos_iff.mpr h
  rw [hb.refs p]
  exact_mod_cast Nat.lt_of_lt_of_le hpos hle

lemma exists_holder {p : ℕ} (h : 0 < bm.allocator.getRefCount p) : ∃ sid, p ∈ bm.getBlockTable sid := by
  rw [hb.refs p] at h
  exact bm.exists_of_entriesAt (by exact_mod_cast h)

lemma isFree_eq_false {sid : SeqId} {p : ℕ} (h : p ∈ bm.getBlockTable sid) :
    bm.allocator.isFree p = false :=
  BlockAllocator.isFree_eq_false hb.valid (ne_of_gt (hb.getRefCount_pos h))

lemma lt_numBlocks {sid : SeqId} {p : ℕ} (h : p ∈ bm.getBlockTable sid) : p < bm.allocator.numBlocks :=
  BlockAllocator.lt_of_getRefCount hb.valid (ne_of_gt (hb.getRefCount_pos h))

lemma not_mem_of_isFree {p : ℕ} (h : bm.allocator.isFree p = true) (sid : SeqId) :
    p ∉ bm.getBlockTable sid := by
  intro hm
  simp [hb.isFree_eq_false hm] at h

end Balanced

lemma cachedBlock_eq_some {bm : BlockManager ε} {h : ℤ} {p : ℕ} :
    bm.cachedBlock h = some p ↔ bm.prefixCache.get? h = some p ∧ 0 < bm.allocator.getRefCount p := by
  simp only [cachedBlock, PrefixCache.lookup]
  cases bm.prefixCache.get? h with
  | none => simp
  | some r =>
    by_cases hr : 0 < bm.allocator.getRefCount r
    · simp only [gt_iff_lt, hr, if_true, Option.some.injEq]
      exact ⟨fun e => ⟨e, e ▸ hr⟩, fun e => e.1⟩
    · simp only [gt_iff_lt, hr, if_false, Option.some.injEq]
      exact ⟨fun e => absurd e (by simp), fun e => absurd (e.1 ▸ e.2) hr⟩

lemma getBlockTable_set (bm : BlockManager ε) (allocator : BlockAllocator ε) (s sid : SeqId) (t : BlockTable)
    (cache : PrefixCache) (shared : Dict SeqId ℕ) (hashes : Dict SeqId (List ℤ)) (history : List CacheEvent) :
    getBlockTable ⟨allocator, bm.tables.set sid t, cache, shared, hashes, history⟩ s =
      if s = sid then t.getBlockIds else bm.getBlockTable s := by
  simp only [getBlockTable, getTable, Dict.get?_set]
  split_ifs <;> rfl

lemma isPrefix_of_grown {bm bm' : BlockManager ε} {sid : SeqId} {pids : List ℕ}
    (ht : ∀ s, bm'.getBlockTable s = if s = sid then bm.getBlockTable sid ++ pids else bm.getBlockTable s)
    (s : SeqId) : bm.getBlockTable s <+: bm'.getBlockTable s := by
  rw [ht]
  split_ifs with hid
  · rw [hid]
    apply List.prefix_append
  · exact List.prefix_rfl

structure Shares (sid : SeqId) (pids : List ℕ) (bm bm' : BlockManager ε) : Prop where
  balanced : bm'.Balanced
  table : ∀ s, bm'.getBlockTable s = if s = sid then bm.getBlockTable sid ++ pids else bm.getBlockTable s
  contains : ∀ s, bm'.tables.contains s = bm.tables.contains s
  refCount : ∀ p, bm'.allocator.getRefCount p = bm.allocator.getRefCount p + pids.count p
  isFree : ∀ p, bm'.allocator.isFree p = bm.allocator.isFree p
  numBlocks : bm'.allocator.numBlocks = bm.allocator.numBlocks
  listener : bm'.allocator.listener = bm.allocator.listener
  prefixCache : bm'.prefixCache = bm.prefixCache
  blockHashes : bm'.blockHashes = bm.blockHashes
  history : bm'.history = bm.history

lemma Shares.refl {sid : SeqId} {bm : BlockManager ε} (hb : bm.Balanced) : Shares sid [] bm bm := by
  refine ⟨hb, fun s => ?_, fun _ => rfl, fun p => by simp, fun _ => rfl, rfl, rfl, rfl, rfl, rfl⟩
  by_cases h : s = sid <;> simp [h]

lemma Shares.trans {sid : SeqId} {ps qs : List ℕ} {b₁ b₂ b₃ : BlockManager ε} (h : Shares sid ps b₁ b₂)
    (g : Shares sid qs b₂ b₃) : Shares sid (ps ++ qs) b₁ b₃ := by
  refine ⟨g.balanced, fun s => ?_, fun s => (g.contains s).trans (h.contains s), fun p => ?_,
    fun p => (g.isFree p).trans (h.isFree p), g.numBlocks.trans h.numBlocks, g.listener.trans h.listener,
    g.prefixCache.trans h.prefixCache, g.blockHashes.trans h.blockHashes,
    g.history.trans h.history⟩
  · rw [g.table, h.table, h.table]
    by_cases hs : s = sid <;> simp [hs]
  · rw [g.refCount, h.refCount, List.count_append, Nat.cast_add, add_assoc]

lemma Shares.cachedBlock {sid : SeqId} {pids : List ℕ} {bm bm' : BlockManager ε}
    (h : Shares sid pids bm bm') (hlive : ∀ p ∈ pids, 0 < bm.allocator.getRefCount p) (x : ℤ) :
    bm'.cachedBlock x = bm.cachedBlock x := by
  apply Option.ext
  intro p
  simp only [cachedBlock_eq_some, h.prefixCache, h.refCount]
  refine and_congr_right fun _ => ⟨fun hp => ?_, fun hp => by omega⟩
  by_cases hm : p ∈ pids
  · exact hlive p hm
  · simpa [List.count_eq_zero_of_not_mem hm] using hp

lemma shareBlock_spec {bm : BlockManager ε} (hb : bm.Balanced) {sid : SeqId} (ht : bm.tables.contains sid)
    {p : ℕ} (hp : 0 < bm.allocator.getRefCount p) :
    ∃ bm', bm.shareBlock sid p = (.ok (), bm') ∧ Shares sid [p] bm bm' := by
  have hr := BlockAllocator.getRefCount_addRef hb.valid hp
  refine ⟨{ bm with
      allocator := bm.allocator.addRef p
      tables := bm.tables.set sid ((bm.getTable sid).addSharedBlock p) },
    by simp only [shareBlock, BlockAllocator.incrementRef_eq hb.valid hp],
    ⟨BlockAllocator.addRef_valid hb.valid hp, fun q => ?_⟩, fun s => ?_, fun s => ?_, fun q => ?_,
    fun q => rfl, rfl, rfl, rfl, rfl, rfl⟩
  · have h := bm.total_set sid ((bm.getTable sid).addSharedBlock p) q
    have hb' := hb.refs q
    simp only [BlockTable.getBlockIds_addSharedBlock, List.count_append] at h
    refine (hr q).trans ?_
    by_cases hq : q = p
    · subst hq
      simp only [List.count_singleton_self, getBlockTable, if_true, entriesAt] at h hb' ⊢
      omega
    · simp only [hq, if_false, List.count_singleton, beq_iff_eq, Ne.symm hq, getBlockTable, entriesAt,
        add_zero] at h hb' ⊢
      omega
  · rw [getBlockTable_set, BlockTable.getBlockIds_addSharedBlock]
    rfl
  · simp only [Dict.contains, Dict.get?_set] at ht ⊢
    by_cases hs : s = sid <;> simp [hs, ht]
  · refine (hr q).trans ?_
    by_cases hq : q = p
    · simp [hq]
    · simp [hq, Ne.symm hq]

lemma matchPrefix_congr {bm bm' : BlockManager ε} (h : ∀ x, bm'.cachedBlock x = bm.cachedBlock x)
    (hashes : List ℤ) : bm'.matchPrefix hashes = bm.matchPrefix hashes := by
  induction hashes with
  | nil => rfl
  | cons x rest ih => simp only [matchPrefix, h x, ih]

lemma matchPrefix_getElem? {bm : BlockManager ε} {hashes : List ℤ} {i p : ℕ}
    (h : (bm.matchPrefix hashes)[i]? = some p) :
    ∃ x, hashes[i]? = some x ∧ bm.cachedBlock x = some p := by
  induction hashes generalizing i with
  | nil => simp [matchPrefix] at h
  | cons x rest ih =>
    cases hc : bm.cachedBlock x with
    | none => simp [matchPrefix, hc] at h
    | some r =>
      simp only [matchPrefix, hc] at h
      cases i with
      | zero =>
        simp only [List.getElem?_cons_zero, Option.some.injEq] at h
        exact ⟨x, rfl, by rw [hc, h]⟩
      | succ i => simpa using ih (by simpa using h)

lemma matchPrefix_length (bm : BlockManager ε) (hashes : List ℤ) :
    (bm.matchPrefix hashes).length ≤ hashes.length := by
  induction hashes with
  | nil => simp [matchPrefix]
  | cons x rest ih =>
    cases hc : bm.cachedBlock x with
    | none => simp [matchPrefix, hc]
    | some r => simpa [matchPrefix, hc] using ih

lemma matchPrefix_live {bm : BlockManager ε} {hashes : List ℤ} {p : ℕ} (h : p ∈ bm.matchPrefix hashes) :
    0 < bm.allocator.getRefCount p := by
  obtain ⟨i, hi⟩ := List.getElem?_of_mem h
  obtain ⟨x, -, hc⟩ := matchPrefix_getElem? hi
  exact (cachedBlock_eq_some.mp hc).2

lemma sharePrefix_spec (sid : SeqId) (hashes : List ℤ) {bm : BlockManager ε} (hb : bm.Balanced)
    (ht : bm.tables.contains sid) :
    ∃ bm', sharePrefix sid hashes bm = (.ok (bm.matchPrefix hashes).length, bm') ∧
      Shares sid (bm.matchPrefix hashes) bm bm' := by
  induction hashes generalizing bm with
  | nil => exact ⟨bm, rfl, Shares.refl hb⟩
  | cons x rest ih =>
    cases hc : bm.cachedBlock x with
    | none =>
      simp only [sharePrefix, matchPrefix, hc]
      exact ⟨bm, rfl, Shares.refl hb⟩
    | some p =>
      have hp := (cachedBlock_eq_some.mp hc).2
      obtain ⟨b₁, h₁, s₁⟩ := shareBlock_spec hb ht hp
      obtain ⟨b₂, h₂, s₂⟩ := ih s₁.balanced ((s₁.contains sid).trans ht)
      have hm := matchPrefix_congr (s₁.cachedBlock (by simpa using hp)) rest
      rw [hm] at h₂ s₂
      refine ⟨b₂, ?_, ?_⟩
      · simp only [sharePrefix, matchPrefix, hc, h₁, h₂, List.length_cons]
      · simpa only [matchPrefix, hc] using! s₁.trans s₂

structure Admits (P : BlockParams ε) (sid : SeqId) (prompt : List ℕ) (bm bm' : BlockManager ε) : Prop where
  balanced : bm'.Balanced
  table : ∀ s, bm'.getBlockTable s = if s = sid
    then (bm.probePrefixCache P prompt).matchedPhysicalBlockIds else bm.getBlockTable s
  contains : ∀ s, bm'.tables.contains s ↔ s = sid ∨ bm.tables.contains s
  refCount : ∀ p, bm'.allocator.getRefCount p = bm.allocator.getRefCount p +
    (bm.probePrefixCache P prompt).matchedPhysicalBlockIds.count p
  isFree : ∀ p, bm'.allocator.isFree p = bm.allocator.isFree p
  numBlocks : bm'.allocator.numBlocks = bm.allocator.numBlocks
  listener : bm'.allocator.listener = bm.allocator.listener
  prefixCache : bm'.prefixCache = bm.prefixCache
  blockHashes : bm'.blockHashes = if P.enablePrefixCaching
    then bm.blockHashes.set sid (computeBlockHashes P.blockHash P.blockSize prompt)
    else bm.blockHashes
  history : bm'.history = bm.history

lemma probe_off {P : BlockParams ε} (h : P.enablePrefixCaching = false) (bm : BlockManager ε)
    (prompt : List ℕ) : bm.probePrefixCache P prompt = {} := by
  simp [probePrefixCache, h]

lemma probe_matched {P : BlockParams ε} (h : P.enablePrefixCaching = true) (bm : BlockManager ε)
    (prompt : List ℕ) : (bm.probePrefixCache P prompt).matchedPhysicalBlockIds =
      bm.matchPrefix (computeBlockHashes P.blockHash P.blockSize prompt) := by
  simp [probePrefixCache, h]

lemma probe_live {P : BlockParams ε} {bm : BlockManager ε} {prompt : List ℕ} {p : ℕ}
    (h : p ∈ (bm.probePrefixCache P prompt).matchedPhysicalBlockIds) : 0 < bm.allocator.getRefCount p := by
  simp only [probePrefixCache] at h
  split_ifs at h
  · exact matchPrefix_live h
  · simp at h

theorem allocateForSeq_spec (P : BlockParams ε) {bm : BlockManager ε} (hb : bm.Balanced) {q : Sequence}
    (hn : ¬ bm.tables.contains q.seqId) :
    ∃ bm', bm.allocateForSeq P q = (.ok (), bm') ∧ Admits P q.seqId q.promptTokenIds bm bm' := by
  have hnil := bm.getBlockTable_eq_nil hn
  have hempty : ∀ p, (bm.tables.set q.seqId {}).total (fun t => t.getBlockIds.count p) = bm.entriesAt p := by
    intro p
    simpa [hnil] using bm.total_set q.seqId {} p
  have hcontains : ∀ s, (bm.tables.set q.seqId {}).contains s ↔ s = q.seqId ∨ bm.tables.contains s := by
    intro s
    simp only [Dict.contains, Dict.get?_set]
    by_cases hs : s = q.seqId <;> simp [hs]
  cases hon : P.enablePrefixCaching with
  | false =>
    refine ⟨{ bm with
        tables := bm.tables.set q.seqId {}
        sharedPrefixBlocks := bm.sharedPrefixBlocks.set q.seqId 0 },
      by simp [allocateForSeq, hon], ⟨hb.valid, fun p => ?_⟩, fun s => ?_, hcontains,
      fun p => ?_, fun _ => rfl, rfl, rfl, rfl, by simp [hon], rfl⟩
    · exact (hb.refs p).trans (congrArg Nat.cast (hempty p).symm)
    · rw [probe_off hon]
      exact getBlockTable_set bm _ s q.seqId {} _ _ _ _
    · simp [probe_off hon]
  | true =>
    let opened : BlockManager ε :=
      { bm with
        tables := bm.tables.set q.seqId {}
        blockHashes := bm.blockHashes.set q.seqId
          (computeBlockHashes P.blockHash P.blockSize q.promptTokenIds) }
    have hbo : opened.Balanced := ⟨hb.valid, fun p => (hb.refs p).trans (congrArg Nat.cast (hempty p).symm)⟩
    have hto : ∀ s, opened.getBlockTable s = if s = q.seqId then [] else bm.getBlockTable s :=
      fun s => getBlockTable_set bm _ s q.seqId {} _ _ _ _
    have hcached : ∀ x, opened.cachedBlock x = bm.cachedBlock x := fun _ => rfl
    have hm := matchPrefix_congr hcached (computeBlockHashes P.blockHash P.blockSize q.promptTokenIds)
    obtain ⟨b₁, h₁, s₁⟩ := sharePrefix_spec q.seqId
      (computeBlockHashes P.blockHash P.blockSize q.promptTokenIds) hbo ((hcontains q.seqId).mpr (Or.inl rfl))
    rw [hm, ← probe_matched hon] at h₁ s₁
    let n := (bm.probePrefixCache P q.promptTokenIds).matchedPhysicalBlockIds.length
    have he : bm.allocateForSeq P q =
        (.ok (), { b₁ with sharedPrefixBlocks := b₁.sharedPrefixBlocks.set q.seqId n }) := by
      simp only [opened] at h₁
      simp only [allocateForSeq, hon, if_true, h₁, n]
    refine ⟨{ b₁ with sharedPrefixBlocks := b₁.sharedPrefixBlocks.set q.seqId n }, he,
      ⟨s₁.balanced.valid, s₁.balanced.refs⟩, fun s => ?_, fun s => ?_, s₁.refCount, s₁.isFree, s₁.numBlocks,
      s₁.listener, s₁.prefixCache, by simpa [hon] using s₁.blockHashes, s₁.history⟩
    · refine (s₁.table s).trans ?_
      rw [hto, hto]
      by_cases hs : s = q.seqId <;> simp [hs]
    · exact (Bool.eq_iff_iff.mp (s₁.contains s)).trans (hcontains s)

structure Takes (P : BlockParams ε) (sid : SeqId) (hash : Option ℤ) (p : ℕ) (bm bm' : BlockManager ε) :
    Prop where
  balanced : bm'.Balanced
  wasFree : bm.allocator.isFree p = true
  first : ∀ r < p, bm.allocator.isFree r = false
  table : ∀ s, bm'.getBlockTable s = if s = sid then bm.getBlockTable sid ++ [p] else bm.getBlockTable s
  contains : ∀ s, bm'.tables.contains s = bm.tables.contains s
  refCount : ∀ r, bm'.allocator.getRefCount r = if r = p then 1 else bm.allocator.getRefCount r
  isFree : ∀ r, bm'.allocator.isFree r = if r = p then false else bm.allocator.isFree r
  numBlocks : bm'.allocator.numBlocks = bm.allocator.numBlocks
  listener : bm'.allocator.listener = P.callbacks.onAllocate bm.allocator.listener p
  prefixCache : bm'.prefixCache = bm.registerBlock hash p
  blockHashes : bm'.blockHashes = bm.blockHashes
  history : bm'.history = .allocated p sid hash :: bm.history

lemma allocateBlock_spec (P : BlockParams ε) {bm : BlockManager ε} (hb : bm.Balanced) {sid : SeqId}
    (ht : bm.tables.contains sid) (hash : Option ℤ) (oom : Exn) :
    (bm.allocateBlock P.callbacks sid hash oom = (.error oom, bm) ∧ ∀ p, bm.allocator.isFree p = false) ∨
      ∃ p bm', bm.allocateBlock P.callbacks sid hash oom = (.ok (), bm') ∧ Takes P sid hash p bm bm' := by
  rcases BlockAllocator.allocate_one P.callbacks bm.allocator with ⟨ha, hnone⟩ | ⟨p, hp, hfirst, ha⟩
  · exact Or.inl ⟨by simp [allocateBlock, ha], hnone⟩
  · right
    have hr := BlockAllocator.getRefCount_takeBlock P.callbacks hb.valid hp
    refine ⟨p, { bm with
        allocator := bm.allocator.takeBlock P.callbacks p
        tables := bm.tables.set sid ((bm.getTable sid).addBlock p)
        prefixCache := bm.registerBlock hash p
        history := .allocated p sid hash :: bm.history },
      by simp only [allocateBlock, ha],
      ⟨BlockAllocator.takeBlock_valid P.callbacks hb.valid hp, fun q => ?_⟩, hp, hfirst, fun s => ?_,
      fun s => ?_, hr, BlockAllocator.isFree_takeBlock P.callbacks hb.valid hp, rfl, rfl, rfl, rfl, rfl⟩
    · have h := bm.total_set sid ((bm.getTable sid).addBlock p) q
      have hb' := hb.refs q
      simp only [BlockTable.getBlockIds_addBlock, List.count_append] at h
      refine (hr q).trans ?_
      by_cases hq : q = p
      · subst hq
        have hz := BlockAllocator.getRefCount_of_isFree hb.valid hp
        simp only [List.count_singleton_self, getBlockTable, if_true, entriesAt] at h hb' ⊢
        omega
      · simp only [hq, if_false, List.count_singleton, beq_iff_eq, Ne.symm hq, getBlockTable, entriesAt,
          add_zero] at h hb' ⊢
        omega
    · rw [getBlockTable_set, BlockTable.getBlockIds_addBlock]
      rfl
    · simp only [Dict.contains, Dict.get?_set] at ht ⊢
      by_cases hs : s = sid <;> simp [hs, ht]

inductive Ensures (P : BlockParams ε) (q : Sequence) (position : ℕ) (bm : BlockManager ε) :
    Except Exn (Option ℕ) → BlockManager ε → Prop
  | covered (h : position / P.blockSize < (bm.getBlockTable q.seqId).length) :
      Ensures P q position bm (.ok (some ((bm.getBlockTable q.seqId)[position / P.blockSize]))) bm
  | hit (hash : ℤ) (p : ℕ) (bm' : BlockManager ε)
      (hlen : position / P.blockSize = (bm.getBlockTable q.seqId).length)
      (hhash : bm.promptHash P q position (position / P.blockSize) = some hash)
      (hcached : bm.cachedBlock hash = some p) (hs : Shares q.seqId [p] bm bm') :
      Ensures P q position bm (.ok (some p)) bm'
  | miss (p : ℕ) (bm' : BlockManager ε)
      (hlen : position / P.blockSize = (bm.getBlockTable q.seqId).length)
      (hmiss : (bm.promptHash P q position (position / P.blockSize)).bind bm.cachedBlock = none)
      (ht : Takes P q.seqId (bm.promptHash P q position (position / P.blockSize)) p bm bm') :
      Ensures P q position bm (.ok (some p)) bm'
  | outOfMemory (hlen : position / P.blockSize = (bm.getBlockTable q.seqId).length)
      (hmiss : (bm.promptHash P q position (position / P.blockSize)).bind bm.cachedBlock = none)
      (hnone : ∀ p, bm.allocator.isFree p = false) :
      Ensures P q position bm (.error (.outOfMemory q.seqId position
        (some (bm.getSharedPrefixLength q.seqId)))) bm

lemma getPhysicalBlock_append {P : BlockParams ε} {q : Sequence} {position p : ℕ} {bm bm' : BlockManager ε}
    (hlen : position / P.blockSize = (bm.getBlockTable q.seqId).length)
    (ht : bm'.getBlockTable q.seqId = bm.getBlockTable q.seqId ++ [p]) :
    (bm'.getTable q.seqId).getPhysicalBlock P.blockSize position = some p := by
  have h : (bm'.getTable q.seqId).getBlockIds = bm.getBlockTable q.seqId ++ [p] := ht
  simp [BlockTable.getPhysicalBlock, h, hlen]

lemma ensureBlock_covered (P : BlockParams ε) {bm : BlockManager ε} {q : Sequence} (ht : bm.tables.contains q.seqId)
    {position : ℕ} (hlt : position / P.blockSize < (bm.getBlockTable q.seqId).length) :
    bm.ensureBlock P q position = (.ok (some ((bm.getBlockTable q.seqId)[position / P.blockSize])), bm) := by
  have hnum : (bm.getTable q.seqId).numBlocks = (bm.getBlockTable q.seqId).length := BlockTable.numBlocks_eq _
  have hz : position / P.blockSize + 1 - (bm.getTable q.seqId).numBlocks = 0 := by omega
  simp only [ensureBlock, bm.withTable_of_contains ht, hz, growLoop, BlockTable.getPhysicalBlock]
  exact congrArg (fun pid => (Except.ok pid, bm)) (List.getElem?_eq_getElem hlt)

theorem ensureBlock_spec (P : BlockParams ε) {bm : BlockManager ε} (hb : bm.Balanced) {q : Sequence}
    (ht : bm.tables.contains q.seqId) {position : ℕ}
    (hpos : position / P.blockSize ≤ (bm.getBlockTable q.seqId).length) :
    Ensures P q position bm (bm.ensureBlock P q position).1 (bm.ensureBlock P q position).2 := by
  have hnum : (bm.getTable q.seqId).numBlocks = (bm.getBlockTable q.seqId).length := BlockTable.numBlocks_eq _
  rcases Nat.lt_or_eq_of_le hpos with hlt | hlen
  · rw [ensureBlock_covered P ht hlt]
    exact .covered hlt
  · have hone : position / P.blockSize + 1 - (bm.getTable q.seqId).numBlocks = 1 := by omega
    cases hc : (bm.promptHash P q position (position / P.blockSize)).bind bm.cachedBlock with
    | some p =>
      obtain ⟨x, hx, hcx⟩ := Option.bind_eq_some_iff.mp hc
      obtain ⟨bm', h', s'⟩ := shareBlock_spec hb ht (cachedBlock_eq_some.mp hcx).2
      have htab : bm'.getBlockTable q.seqId = bm.getBlockTable q.seqId ++ [p] := by simp [s'.table]
      have he : bm.ensureBlock P q position = (.ok (some p), bm') := by
        simp only [ensureBlock, bm.withTable_of_contains ht, hone, growLoop, growTable, hc, h',
          getPhysicalBlock_append hlen htab]
      rw [he]
      exact .hit x p bm' hlen hx hcx s'
    | none =>
      rcases allocateBlock_spec P hb ht (bm.promptHash P q position (position / P.blockSize))
        (.outOfMemory q.seqId position (some (bm.getSharedPrefixLength q.seqId))) with
        ⟨ha, hnone⟩ | ⟨p, bm', ha, htk⟩
      · have he : bm.ensureBlock P q position = (.error (.outOfMemory q.seqId position
            (some (bm.getSharedPrefixLength q.seqId))), bm) := by
          simp only [ensureBlock, bm.withTable_of_contains ht, hone, growLoop, growTable, hc, ha]
        rw [he]
        exact .outOfMemory hlen hc hnone
      · have htab : bm'.getBlockTable q.seqId = bm.getBlockTable q.seqId ++ [p] := by simp [htk.table]
        have he : bm.ensureBlock P q position = (.ok (some p), bm') := by
          simp only [ensureBlock, bm.withTable_of_contains ht, hone, growLoop, growTable, hc, ha,
            getPhysicalBlock_append hlen htab]
        rw [he]
        exact .miss p bm' hlen hc htk

structure Releases (P : BlockParams ε) (sid : SeqId) (bm bm' : BlockManager ε) : Prop where
  balanced : bm'.Balanced
  table : ∀ s, bm'.getBlockTable s = if s = sid then [] else bm.getBlockTable s
  contains : ∀ s, bm'.tables.contains s ↔ s ≠ sid ∧ bm.tables.contains s
  refCount : ∀ p, bm'.allocator.getRefCount p =
    bm.allocator.getRefCount p - (bm.getBlockTable sid).count p
  numBlocks : bm'.allocator.numBlocks = bm.allocator.numBlocks
  listener : ∃ released : List ℕ,
    bm'.allocator.listener = released.foldl P.callbacks.onFree bm.allocator.listener ∧
      ∀ p, p ∈ released ↔ p ∈ bm.getBlockTable sid ∧ bm'.allocator.getRefCount p = 0
  prefixCache : bm'.prefixCache = bm.prefixCache
  blockHashes : bm'.blockHashes = bm.blockHashes.pop sid
  history : bm'.history = bm.history

theorem free_spec (P : BlockParams ε) {bm : BlockManager ε} (hb : bm.Balanced) {sid : SeqId}
    (ht : bm.tables.contains sid) : Releases P sid bm (bm.free P sid) := by
  have hg := bm.get?_of_contains ht
  have hf := BlockAllocator.free_spec P.callbacks (bm.getBlockTable sid) hb.valid (fun p _ => by
    rw [hb.refs p]
    exact_mod_cast bm.count_le_entriesAt sid p)
  have he : bm.free P sid =
      { bm with
        tables := bm.tables.pop sid
        allocator := bm.allocator.free P.callbacks (bm.getBlockTable sid)
        sharedPrefixBlocks := bm.sharedPrefixBlocks.pop sid
        blockHashes := bm.blockHashes.pop sid } := by
    simp only [free, hg]
    rfl
  rw [he]
  refine ⟨⟨hf.valid, fun p => ?_⟩, fun s => ?_, fun s => ?_, hf.refCount, hf.numBlocks, hf.listener, rfl, rfl,
    rfl⟩
  · have h := bm.tables.total_pop (fun t => t.getBlockIds.count p) sid _ hg
    have hr := hf.refCount p
    have hb' := hb.refs p
    simp only [entriesAt, getBlockTable] at h hr hb' ⊢
    omega
  · simp only [getBlockTable, getTable, Dict.get?_pop]
    split_ifs <;> rfl
  · simp only [Dict.contains, Dict.get?_pop]
    by_cases hs : s = sid <;> simp [hs]

end BlockManager

end MiniVllm
