import MiniVllm.CacheProofs.Manager

/-! Without the prefix cache no block is shared, and `ensure_block` treats every listener alike. -/

namespace MiniVllm

variable {ε : Type}

section MapListener

variable {cb : Callbacks ε} {g : ε → ε} (hg : ∀ x p, g (cb.onAllocate x p) = cb.onAllocate (g x) p)

def BlockAllocator.mapListener (g : ε → ε) (a : BlockAllocator ε) : BlockAllocator ε :=
  { a with listener := g a.listener }

include hg in
lemma BlockAllocator.allocate_mapListener (a : BlockAllocator ε) (n : ℕ) :
    (a.mapListener g).allocate cb n = ((a.allocate cb n).1, (a.allocate cb n).2.mapListener g) := by
  have htake : ∀ (ids : List ℕ) (a : BlockAllocator ε),
      ids.foldl (takeBlock cb) (a.mapListener g) = (ids.foldl (takeBlock cb) a).mapListener g := by
    intro ids
    induction ids with
    | nil => exact fun _ => rfl
    | cons p ids ih =>
      intro a
      have hp : takeBlock cb (a.mapListener g) p = (takeBlock cb a p).mapListener g := by
        simp only [takeBlock, BlockAllocator.mapListener, hg]
      rw [List.foldl_cons, hp, ih, List.foldl_cons]
  have hfree : (a.mapListener g).numFreeBlocks = a.numFreeBlocks := rfl
  rw [allocate, allocate, hfree]
  split_ifs
  · rfl
  · exact congrArg (Prod.mk _) (htake _ a)

namespace BlockManager

def mapListener (g : ε → ε) (bm : BlockManager ε) : BlockManager ε := bm.withListener (g bm.allocator.listener)

section Operations

variable {P : BlockParams ε} (bm : BlockManager ε)

include hg in
lemma allocateBlock_mapListener (sid : SeqId) (hash : Option ℤ) (oom : Exn) :
    (bm.mapListener g).allocateBlock cb sid hash oom =
      ((bm.allocateBlock cb sid hash oom).1, (bm.allocateBlock cb sid hash oom).2.mapListener g) := by
  have h := BlockAllocator.allocate_mapListener hg bm.allocator 1
  have hm : (bm.mapListener g).allocator.allocate cb 1 = (bm.allocator.mapListener g).allocate cb 1 := rfl
  rw [allocateBlock, allocateBlock, hm, h]
  rcases ha : bm.allocator.allocate cb 1 with ⟨ids, a⟩
  cases ids with
  | none => rfl
  | some ids =>
    cases ids with
    | nil => rfl
    | cons p ids => rfl

lemma shareBlock_mapListener (sid : SeqId) (p : ℕ) :
    (bm.mapListener g).shareBlock sid p = ((bm.shareBlock sid p).1, (bm.shareBlock sid p).2.mapListener g) := by
  have hfree : (bm.mapListener g).allocator.isFree p = bm.allocator.isFree p := rfl
  simp only [shareBlock, BlockAllocator.incrementRef, hfree]
  split_ifs <;> rfl

lemma growTable_mapListener (hg : ∀ x p, g (P.callbacks.onAllocate x p) = P.callbacks.onAllocate (g x) p)
    (q : Sequence) (position logicalIdx : ℕ) :
    (bm.mapListener g).growTable P q position logicalIdx =
      ((bm.growTable P q position logicalIdx).1, (bm.growTable P q position logicalIdx).2.mapListener g) := by
  have hhash : (bm.mapListener g).promptHash P q position logicalIdx = bm.promptHash P q position logicalIdx := rfl
  have hcached : (bm.mapListener g).cachedBlock = bm.cachedBlock := rfl
  have hshared : (bm.mapListener g).getSharedPrefixLength q.seqId = bm.getSharedPrefixLength q.seqId := rfl
  simp only [growTable, hhash, hcached, hshared]
  cases (bm.promptHash P q position logicalIdx).bind bm.cachedBlock with
  | none => exact bm.allocateBlock_mapListener hg _ _ _
  | some p => exact bm.shareBlock_mapListener _ p

lemma growLoop_mapListener {f : BlockManager ε → Except Exn Unit × BlockManager ε}
    (hf : ∀ bm, f (bm.mapListener g) = ((f bm).1, (f bm).2.mapListener g)) (n : ℕ) :
    growLoop f n (bm.mapListener g) = ((growLoop f n bm).1, (growLoop f n bm).2.mapListener g) := by
  induction n generalizing bm with
  | zero => rfl
  | succ n ih =>
    rw [growLoop, growLoop, hf]
    rcases f bm with ⟨r, bm'⟩
    cases r with
    | error err => rfl
    | ok u => exact ih bm'

lemma withTable_mapListener (sid : SeqId) : (bm.mapListener g).withTable sid = (bm.withTable sid).mapListener g := by
  have hc : (bm.mapListener g).tables = bm.tables := rfl
  rw [withTable, withTable, hc]
  split_ifs <;> rfl

theorem ensureBlock_mapListener
    (hg : ∀ x p, g (P.callbacks.onAllocate x p) = P.callbacks.onAllocate (g x) p) (q : Sequence) (position : ℕ) :
    (bm.mapListener g).ensureBlock P q position =
      ((bm.ensureBlock P q position).1, (bm.ensureBlock P q position).2.mapListener g) := by
  have hloop := (bm.withTable q.seqId).growLoop_mapListener (g := g)
    (f := fun bm => bm.growTable P q position (position / P.blockSize))
    (fun bm => bm.growTable_mapListener hg q position (position / P.blockSize))
    (position / P.blockSize + 1 - ((bm.withTable q.seqId).getTable q.seqId).numBlocks)
  have htable : (((bm.withTable q.seqId).mapListener g).getTable q.seqId).numBlocks =
    ((bm.withTable q.seqId).getTable q.seqId).numBlocks := rfl
  simp only [ensureBlock, withTable_mapListener, htable, hloop]
  rcases growLoop (fun bm => bm.growTable P q position (position / P.blockSize)) _ (bm.withTable q.seqId) with ⟨r, bm'⟩
  cases r <;> rfl

end Operations

end BlockManager

end MapListener

namespace BlockManager

def OwnEntries (bm : BlockManager ε) : Prop := ∀ sid, ∀ e ∈ (bm.getTable sid).entries, e.isShared = false

lemma getTable_set (bm : BlockManager ε) (s sid : SeqId) (t : BlockTable) :
    ((bm.tables.set sid t).get? s).getD {} = if s = sid then t else bm.getTable s := by
  rw [Dict.get?_set]
  split_ifs <;> rfl

lemma promptHash_off {P : BlockParams ε} (hoff : P.enablePrefixCaching = false) (bm : BlockManager ε) (q : Sequence)
    (position logicalIdx : ℕ) : bm.promptHash P q position logicalIdx = none := by
  simp [promptHash, hoff]

namespace OwnEntries

variable {P : BlockParams ε} {bm : BlockManager ε} (h : bm.OwnEntries)

include h

lemma isBlockShared (q : Sequence) (position : ℕ) : bm.isBlockShared P q position = false := by
  rw [BlockManager.isBlockShared, BlockTable.isSharedAt]
  cases he : (bm.getTable q.seqId).entries[position / P.blockSize]? with
  | none => rfl
  | some e => exact h q.seqId e (List.mem_of_getElem? he)

lemma of_tables {bm' : BlockManager ε} (ht : bm'.tables = bm.tables) : bm'.OwnEntries := by
  intro sid
  have hs : bm'.getTable sid = bm.getTable sid := by rw [getTable, getTable, ht]
  rw [hs]
  exact h sid

lemma of_set {bm' : BlockManager ε} {sid : SeqId} {t : BlockTable} (ht : bm'.tables = bm.tables.set sid t)
    (hnew : ∀ e ∈ t.entries, e.isShared = false) : bm'.OwnEntries := by
  intro s
  have hs : bm'.getTable s = if s = sid then t else bm.getTable s := by
    rw [getTable, ht]
    exact bm.getTable_set s sid t
  rw [hs]
  split_ifs
  · exact hnew
  · exact h s

lemma withTable (sid : SeqId) : (bm.withTable sid).OwnEntries := by
  rw [BlockManager.withTable]
  split_ifs
  · exact h
  · exact h.of_set rfl fun e he => by cases he

lemma allocateBlock (cb : Callbacks ε) (sid : SeqId) (hash : Option ℤ) (oom : Exn) :
    (bm.allocateBlock cb sid hash oom).2.OwnEntries := by
  rw [BlockManager.allocateBlock]
  rcases bm.allocator.allocate cb 1 with ⟨ids, a⟩
  cases ids with
  | none => exact h
  | some ids =>
    cases ids with
    | nil => exact h.of_tables rfl
    | cons p ids =>
      refine h.of_set rfl fun e he => ?_
      rcases List.mem_append.mp he with he | he
      · exact h sid e he
      · rw [List.mem_singleton.mp he]

omit h in
lemma growLoop {f : BlockManager ε → Except Exn Unit × BlockManager ε}
    (hf : ∀ bm, bm.OwnEntries → (f bm).2.OwnEntries) (n : ℕ) (h : bm.OwnEntries) :
    (BlockManager.growLoop f n bm).2.OwnEntries := by
  induction n generalizing bm with
  | zero => exact h
  | succ n ih =>
    rw [BlockManager.growLoop]
    have hb := hf bm h
    rcases hr : f bm with ⟨r, bm'⟩
    rw [hr] at hb
    cases r with
    | error err => exact hb
    | ok u => exact ih hb

variable (hoff : P.enablePrefixCaching = false)

include hoff

theorem ensureBlock (q : Sequence) (position : ℕ) : (bm.ensureBlock P q position).2.OwnEntries := by
  have hloop := growLoop (f := fun bm => bm.growTable P q position (position / P.blockSize))
    (fun bm h => by
      simp only [growTable, promptHash_off hoff, Option.bind_none]
      exact h.allocateBlock _ _ _ _)
    (position / P.blockSize + 1 - ((bm.withTable q.seqId).getTable q.seqId).numBlocks) (h.withTable q.seqId)
  simp only [BlockManager.ensureBlock]
  generalize BlockManager.growLoop (fun bm => bm.growTable P q position (position / P.blockSize))
    (position / P.blockSize + 1 - ((bm.withTable q.seqId).getTable q.seqId).numBlocks) (bm.withTable q.seqId) = r at hloop ⊢
  rcases r with ⟨r, bm'⟩
  cases r <;> exact hloop

theorem allocateForSeq (q : Sequence) : (bm.allocateForSeq P q).2.OwnEntries := by
  simp only [BlockManager.allocateForSeq, hoff, Bool.false_eq_true, if_false]
  exact h.of_set rfl fun e he => by cases he

omit hoff

theorem free (sid : SeqId) : (bm.free P sid).OwnEntries := by
  rw [BlockManager.free]
  cases bm.tables.get? sid with
  | none => exact h
  | some t =>
    intro s e he
    rw [getTable, Dict.get?_pop] at he
    split_ifs at he
    · cases he
    · exact h s e he

end OwnEntries

end BlockManager

end MiniVllm
