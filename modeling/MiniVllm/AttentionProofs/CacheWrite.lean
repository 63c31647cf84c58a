import MiniVllm.Attention.PagedAttentionGpu
import MiniVllm.CacheProofs.RoundTrip

/-! The kernel that writes the cache leaves what `write_to_paged_cache` leaves, in any order of its instances. -/

namespace MiniVllm

open Flat

namespace LayerCache

section Rows

variable {A : Type} {heads numBlocks blockSize : ℕ} (cells : ℕ × ℕ → Fin heads → A)

lemma blocks_getElem? {b : ℕ} (hb : b < numBlocks) :
    (blocks numBlocks blockSize cells)[b]? = some (fun h (o : Fin blockSize) => cells (b, o) h) := by
  rw [blocks, List.getElem?_map, List.getElem?_range hb, Option.map_some]

lemma blocks_set {b : ℕ} (o : Fin blockSize) (h : Fin heads) (v : A) :
    (blocks numBlocks blockSize cells).set b
        (Function.update (fun h (o : Fin blockSize) => cells (b, o) h) h
          (Function.update (fun o : Fin blockSize => cells (b, o) h) o v)) =
      blocks numBlocks blockSize (Function.update cells (b, o) (Function.update (cells (b, o)) h v)) := by
  refine List.ext_getElem (by simp [blocks]) fun c h₁ h₂ => ?_
  rw [List.getElem_set]
  simp only [blocks, List.getElem_map, List.getElem_range]
  funext h' o'
  by_cases hc : b = c
  · subst hc
    rw [if_pos rfl]
    by_cases ho : o' = o
    · subst ho
      rw [Function.update_self]
      by_cases hh : h' = h
      · subst hh
        rw [Function.update_self, Function.update_self, Function.update_self]
      · rw [Function.update_of_ne hh, Function.update_of_ne hh]
    · have hne : (b, (o' : ℕ)) ≠ (b, (o : ℕ)) := fun he => ho (Fin.ext (Prod.mk.inj he).2)
      rw [Function.update_of_ne hne]
      by_cases hh : h' = h
      · subst hh
        rw [Function.update_self, Function.update_of_ne ho]
      · rw [Function.update_of_ne hh]
  · have hne : (c, (o' : ℕ)) ≠ (b, (o : ℕ)) := fun he => hc (Prod.mk.inj he).1.symm
    rw [if_neg hc, Function.update_of_ne hne]

def headRows (numBlocks blockSize : ℕ) (cells : ℕ × ℕ → Fin heads → A) : List A :=
  flat (flat (blocks numBlocks blockSize cells))

def headRow (heads blockSize : ℕ) (cell : ℕ × ℕ) (h : ℕ) : ℕ := (cell.1 * heads + h) * blockSize + cell.2

section Cell

variable {cell : ℕ × ℕ} (hb : cell.1 < numBlocks) (ho : cell.2 < blockSize) (h : Fin heads)

include hb

lemma blockRows_getElem? : (flat (blocks numBlocks blockSize cells))[cell.1 * heads + h]? =
    some (fun o : Fin blockSize => cells (cell.1, o) h) :=
  flat_getElem? (blocks_getElem? cells hb) h

include ho

lemma headRows_getElem? :
    (headRows numBlocks blockSize cells)[headRow heads blockSize cell h]? = some (cells cell h) :=
  flat_getElem? (blockRows_getElem? cells hb h) ⟨cell.2, ho⟩

lemma headRow_lt : headRow heads blockSize cell h < (headRows numBlocks blockSize cells).length :=
  (List.getElem?_eq_some_iff.mp (headRows_getElem? cells hb ho h)).1

lemma headRows_set (v : A) : (headRows numBlocks blockSize cells).set (headRow heads blockSize cell h) v =
    headRows numBlocks blockSize (Function.update cells cell (Function.update (cells cell) h v)) := by
  have hrow := flat_set (blockRows_getElem? cells hb h) ⟨cell.2, ho⟩ v
  refine hrow.trans (congrArg flat ?_)
  rw [flat_set (blocks_getElem? cells hb) h]
  exact congrArg flat (blocks_set cells ⟨cell.2, ho⟩ h v)

end Cell

end Rows

end LayerCache

namespace PagedAttentionGpu

open LayerCache

variable {F : Type} {heads headDim blockSize : ℕ}

def upToHead {A : Type} (j : ℕ) (old new : Fin heads → A) : Fin heads → A := fun h => if h.val < j then new h else old h

lemma upToHead_succ {A : Type} {j : ℕ} (hj : j < heads) (old new : Fin heads → A) :
    Function.update (upToHead j old new) ⟨j, hj⟩ (new ⟨j, hj⟩) = upToHead (j + 1) old new := by
  funext h
  by_cases hh : h = ⟨j, hj⟩
  · subst hh
    rw [Function.update_self, upToHead, if_pos (Nat.lt_succ_self j)]
  · have hne : h.val ≠ j := fun he => hh (Fin.ext he)
    rw [Function.update_of_ne hh, upToHead, upToHead]
    by_cases hlt : h.val < j
    · rw [if_pos hlt, if_pos (Nat.lt_succ_of_lt hlt)]
    · rw [if_neg hlt, if_neg (by omega)]

section Program

variable {key value : List (Fin heads → Vec F headDim)} {pid : ℕ} {k v : Fin heads → Vec F headDim}
  (hk : key[pid]? = some k) (hv : value[pid]? = some v)
  (cache : LayerCache (Fin heads → Vec F headDim) (Fin heads → Vec F headDim)) {cell : ℕ × ℕ}
  (hb : cell.1 < cache.numBlocks) (ho : cell.2 < cache.blockSize)

include hk hv hb ho

lemma cacheWriteHead_eq {h : ℕ} (hh : h < heads) : cacheWriteHead (flat (flat key)) (flat (flat value)) cache.blockSize
    headDim heads pid cell.1 cell.2 cache.flatten h =
      .ok (cache.setCell cell (Function.update (cache.key cell) ⟨h, hh⟩ (k ⟨h, hh⟩))
        (Function.update (cache.value cell) ⟨h, hh⟩ (v ⟨h, hh⟩))).flatten := by
  have htoken : (pid * heads * headDim + h * headDim : ℤ) = ((pid * heads + h) * headDim : ℕ) := by
    push_cast
    ring
  have hcell : (cell.1 * heads * cache.blockSize * headDim + h * cache.blockSize * headDim + cell.2 * headDim : ℤ) =
      (headRow heads cache.blockSize cell h * headDim : ℕ) := by
    rw [headRow]
    push_cast
    ring
  have hload : loadVec (flat (flat key)) (pid * heads * headDim + h * headDim) headDim = .ok (k ⟨h, hh⟩) :=
    loadVec_flat (flat_getElem? hk ⟨h, hh⟩) htoken
  have hload' : loadVec (flat (flat value)) (pid * heads * headDim + h * headDim) headDim = .ok (v ⟨h, hh⟩) :=
    loadVec_flat (flat_getElem? hv ⟨h, hh⟩) htoken
  have hstore := storeVec_flat (headRows cache.numBlocks cache.blockSize cache.key)
    (headRow_lt cache.key hb ho ⟨h, hh⟩) hcell (k ⟨h, hh⟩)
  have hstore' := storeVec_flat (headRows cache.numBlocks cache.blockSize cache.value)
    (headRow_lt cache.value hb ho ⟨h, hh⟩) hcell (v ⟨h, hh⟩)
  rw [headRows_set cache.key hb ho ⟨h, hh⟩] at hstore
  rw [headRows_set cache.value hb ho ⟨h, hh⟩] at hstore'
  simp only [headRows] at hstore hstore'
  simp only [cacheWriteHead, LayerCache.flatten, hload, hload', bind, Except.bind, hstore, hstore', pure, Except.pure,
    setCell]

lemma cacheWriteHeads_eq {j : ℕ} (hj : j ≤ heads) : (List.range j).foldlM (cacheWriteHead (flat (flat key))
    (flat (flat value)) cache.blockSize headDim heads pid cell.1 cell.2) cache.flatten =
      .ok (cache.setCell cell (upToHead j (cache.key cell) k) (upToHead j (cache.value cell) v)).flatten := by
  induction j with
  | zero =>
    have hzero : ∀ old new : Fin heads → Vec F headDim, upToHead 0 old new = old := fun old new => by
      funext h
      rw [upToHead, if_neg (Nat.not_lt_zero _)]
    rw [hzero, hzero, setCell, Function.update_eq_self, Function.update_eq_self]
    rfl
  | succ j ih =>
    have hlt : j < heads := hj
    have hhead := cacheWriteHead_eq hk hv
      (cache.setCell cell (upToHead j (cache.key cell) k) (upToHead j (cache.value cell) v)) hb ho hlt
    simp only [setCell, Function.update_self, Function.update_idem, upToHead_succ hlt] at hhead
    rw [List.range_succ, List.foldlM_append, ih hlt.le]
    simp only [bind, Except.bind, List.foldlM_cons, List.foldlM_nil, setCell, hhead, pure, Except.pure]

end Program

lemma cacheWriteKernel_eq (hpos : 0 < blockSize)
    {cache : LayerCache (Fin heads → Vec F headDim) (Fin heads → Vec F headDim)} (hbs : cache.blockSize = blockSize)
    {key value : List (Fin heads → Vec F headDim)} {slotMapping : List ℤ} {pid : ℕ} {slot : ℤ}
    {k v : Fin heads → Vec F headDim} (hs : slotMapping[pid]? = some slot) (hk : key[pid]? = some k)
    (hv : value[pid]? = some v) (hin : InRange blockSize cache slot) :
    cacheWriteKernel (flat (flat key)) (flat (flat value)) slotMapping blockSize headDim heads cache.flatten pid =
      .ok (writeAll blockSize cache (unskipped [(slot, k, v)])).flatten := by
  subst hbs
  have hload : load slotMapping pid = .ok slot := load_eq hs rfl
  simp only [cacheWriteKernel, hload, bind, Except.bind]
  rcases hin with hskip | ⟨hnonneg, hlt⟩
  · subst hskip
    rfl
  · obtain ⟨s, rfl⟩ := Int.eq_ofNat_of_zero_le hnonneg
    have hlt : s < cache.numBlocks * cache.blockSize := by exact_mod_cast hlt
    have hne : (s : ℤ) ≠ -1 := by omega
    have hblock : (cellOf cache.blockSize s).1 < cache.numBlocks := (Nat.div_lt_iff_lt_mul hpos).mpr hlt
    have hoffset : (cellOf cache.blockSize s).2 < cache.blockSize := Nat.mod_lt _ hpos
    have hall : ∀ old new : Fin heads → Vec F headDim, upToHead heads old new = new := fun old new => by
      funext h
      rw [upToHead, if_pos h.isLt]
    have hheads := cacheWriteHeads_eq hk hv cache hblock hoffset (le_refl heads)
    rw [hall, hall] at hheads
    rw [if_neg hne, ← Int.ofNat_tdiv, ← Int.ofNat_tmod]
    refine hheads.trans ?_
    have hunskipped : unskipped [((s : ℤ), k, v)] = [(s, k, v)] := by
      simp [unskipped, hne]
    rw [hunskipped]
    rfl

section Grid

variable {K V : Type}

lemma filterMap_getElem? {A : Type} (xs : List A) (n : ℕ) : (List.range n).filterMap (fun i => xs[i]?) = xs.take n := by
  induction n with
  | zero => rfl
  | succ n ih =>
    rw [List.range_succ, List.filterMap_append, ih, List.take_add_one]
    cases h : xs[n]? with
    | none => simp [h]
    | some x => simp [h]

lemma filterMap_perm {A : Type} {xs : List A} {order : List ℕ} (h : order.Perm (List.range xs.length)) :
    (order.filterMap (fun i => xs[i]?)).Perm xs := by
  have hall := filterMap_getElem? xs xs.length
  rw [List.take_length] at hall
  have hp := h.filterMap (fun i => xs[i]?)
  rwa [hall] at hp

lemma unskipped_cells_nodup {call : List (ℤ × K × V)} {cache : LayerCache K V}
    (hn : ((call.map (·.1)).filter (· ≠ -1)).Nodup) (hin : ∀ w ∈ call, InRange blockSize cache w.1) :
    ((unskipped call).map (fun w => cellOf blockSize w.1)).Nodup := by
  rw [List.filter_map] at hn
  have hslots : (((call.filter (fun w => w.1 ≠ -1)).map (·.1))).Nodup := hn
  rw [unskipped, List.map_map]
  rw [List.nodup_map_iff_inj_on (List.Nodup.of_map _ hslots)]
  intro w hw u hu h
  refine List.inj_on_of_nodup_map hslots hw hu ?_
  obtain ⟨hw, hwne⟩ := List.mem_filter.mp hw
  obtain ⟨hu, hune⟩ := List.mem_filter.mp hu
  have hwpos := ((hin w hw).resolve_left (by simpa using hwne)).1
  have hupos := ((hin u hu).resolve_left (by simpa using hune)).1
  have hnat : w.1.toNat = u.1.toNat := cellOf_inj h
  show w.1 = u.1
  omega

lemma unskipped_perm {xs ys : List (ℤ × K × V)} (h : xs.Perm ys) : (unskipped xs).Perm (unskipped ys) :=
  (h.filter _).map _

lemma writeAll_perm {xs ys : List (ℕ × K × V)} (h : xs.Perm ys)
    (hn : (xs.map (fun w => cellOf blockSize w.1)).Nodup) (cache : LayerCache K V) :
    writeAll blockSize cache xs = writeAll blockSize cache ys := by
  have hkeys := scatter_perm (h.map (fun w => (cellOf blockSize w.1, w.2.1))) (by rwa [List.map_map]) cache.key
  have hvalues := scatter_perm (h.map (fun w => (cellOf blockSize w.1, w.2.2))) (by rwa [List.map_map]) cache.value
  rw [writeAll, writeAll, hkeys, hvalues]

lemma cacheWriteGrid_eq (hpos : 0 < blockSize)
    {cache : LayerCache (Fin heads → Vec F headDim) (Fin heads → Vec F headDim)} (hbs : cache.blockSize = blockSize)
    {call : List (ℤ × (Fin heads → Vec F headDim) × (Fin heads → Vec F headDim))}
    (hin : ∀ w ∈ call, InRange blockSize cache w.1) (order : List ℕ) (horder : ∀ pid ∈ order, pid < call.length) :
    order.foldlM (cacheWriteKernel (flat (flat (call.map (·.2.1)))) (flat (flat (call.map (·.2.2)))) (call.map (·.1))
      blockSize headDim heads) cache.flatten =
        .ok (writeAll blockSize cache (unskipped (order.filterMap (fun pid => call[pid]?)))).flatten := by
  induction order generalizing cache with
  | nil => rfl
  | cons pid order ih =>
    have hpid := horder pid List.mem_cons_self
    have hget := List.getElem?_eq_getElem hpid
    have hslot : (call.map (·.1))[pid]? = some call[pid].1 := by rw [List.getElem?_map, hget, Option.map_some]
    have hkey : (call.map (·.2.1))[pid]? = some call[pid].2.1 := by rw [List.getElem?_map, hget, Option.map_some]
    have hvalue : (call.map (·.2.2))[pid]? = some call[pid].2.2 := by rw [List.getElem?_map, hget, Option.map_some]
    have hstep := cacheWriteKernel_eq hpos hbs hslot hkey hvalue (hin _ (List.getElem_mem hpid))
    have hrest := @ih (writeAll blockSize cache (unskipped [call[pid]])) hbs hin
      fun p hp => horder p (List.mem_cons_of_mem _ hp)
    rw [← writeAll_append, ← unskipped_append] at hrest
    rw [List.foldlM_cons, hstep, List.filterMap_cons_some hget]
    exact hrest

section Lists

variable {slotMapping : List ℤ} {key : List K} {value : List V}

lemma zip_slots (hs : slotMapping.length = key.length) (hv : value.length = key.length) :
    (slotMapping.zip (key.zip value)).map (·.1) = slotMapping := by
  apply List.map_fst_zip
  rw [List.length_zip, hv, min_self, hs]

lemma zip_keys (hs : slotMapping.length = key.length) (hv : value.length = key.length) :
    (slotMapping.zip (key.zip value)).map (·.2.1) = key := by
  have hsnd : (slotMapping.zip (key.zip value)).map Prod.snd = key.zip value := by
    apply List.map_snd_zip
    rw [List.length_zip, hv, min_self, hs]
  have hfst : (key.zip value).map Prod.fst = key := List.map_fst_zip hv.ge
  rw [← hsnd, List.map_map] at hfst
  exact hfst

lemma zip_values (hs : slotMapping.length = key.length) (hv : value.length = key.length) :
    (slotMapping.zip (key.zip value)).map (·.2.2) = value := by
  have hsnd : (slotMapping.zip (key.zip value)).map Prod.snd = key.zip value := by
    apply List.map_snd_zip
    rw [List.length_zip, hv, min_self, hs]
  have hsnd' : (key.zip value).map Prod.snd = value := List.map_snd_zip hv.le
  rw [← hsnd, List.map_map] at hsnd'
  exact hsnd'

end Lists

lemma writeToPagedCache_eq (hpos : 0 < blockSize) {cache : LayerCache K V} (hbs : cache.blockSize = blockSize)
    {key : List K} {value : List V} {slotMapping : List ℤ} (hs : slotMapping.length = key.length)
    (hv : value.length = key.length) (hin : ∀ slot ∈ slotMapping, InRange blockSize cache slot) :
    writeToPagedCache key value cache slotMapping blockSize =
      (.ok (), writeAll blockSize cache (unskipped (slotMapping.zip (key.zip value)))) := by
  have hwrite := forEach_written cache (slotMapping.zip (key.zip value)) 0 fun w hw =>
    hin w.1 (List.of_mem_zip hw).1
  rw [← writeCall_eq hpos hbs, writeCall, zip_slots hs hv, zip_keys hs hv, zip_values hs hv] at hwrite
  exact hwrite

end Grid

section Reference

variable {cache : LayerCache (Fin heads → Vec F headDim) (Fin heads → Vec F headDim)}
  {key value : List (Fin heads → Vec F headDim)} {slotMapping : List ℤ} {order : List ℕ}

lemma cacheWriteGrid_reference (hpos : 0 < blockSize) (hbs : cache.blockSize = blockSize)
    (hs : slotMapping.length = key.length) (hv : value.length = key.length)
    (hin : ∀ slot ∈ slotMapping, InRange blockSize cache slot) (hn : (slotMapping.filter (· ≠ -1)).Nodup)
    (ho : order.Perm (List.range key.length)) :
    order.foldlM (cacheWriteKernel (flat (flat key)) (flat (flat value)) slotMapping blockSize headDim heads)
      cache.flatten =
        .ok (writeAll blockSize cache (unskipped (slotMapping.zip (key.zip value)))).flatten := by
  set call := slotMapping.zip (key.zip value) with hcall
  have hlen : call.length = key.length := by
    rw [hcall, List.length_zip, List.length_zip, hv, min_self, hs, min_self]
  have hin' : ∀ w ∈ call, InRange blockSize cache w.1 := fun w hw => hin w.1 (List.of_mem_zip hw).1
  have hgrid := cacheWriteGrid_eq hpos hbs hin' order fun pid hp => by
    rw [hlen]
    exact List.mem_range.mp (ho.mem_iff.mp hp)
  rw [hcall, zip_slots hs hv, zip_keys hs hv, zip_values hs hv, ← hcall] at hgrid
  have hperm : (order.filterMap (fun pid => call[pid]?)).Perm call := by
    apply filterMap_perm
    rwa [hlen]
  have hcells : ((unskipped call).map (fun w => cellOf blockSize w.1)).Nodup := by
    apply unskipped_cells_nodup _ hin'
    rwa [hcall, zip_slots hs hv]
  rw [hgrid, writeAll_perm (unskipped_perm hperm.symm) hcells]

lemma tritonCacheWrite_eq (hpos : 0 < blockSize) (hbs : cache.blockSize = blockSize)
    (hs : slotMapping.length = key.length) (hv : value.length = key.length)
    (hin : ∀ slot ∈ slotMapping, InRange blockSize cache slot) (hn : (slotMapping.filter (· ≠ -1)).Nodup)
    (ho : order.Perm (List.range key.length)) :
    tritonCacheWrite key value cache.flatten slotMapping cache.blockSize blockSize order =
      .ok (writeToPagedCache key value cache slotMapping blockSize).2.flatten := by
  rw [writeToPagedCache_eq hpos hbs hs hv hin, tritonCacheWrite, if_pos ⟨hv.symm, hs, hbs.symm, hn⟩]
  split_ifs with hempty
  · obtain rfl := List.length_eq_zero_iff.mp hempty
    obtain rfl : slotMapping = [] := List.length_eq_zero_iff.mp hs
    rfl
  · rw [cacheWriteGrid_reference hpos hbs hs hv hin hn ho]
    rfl

theorem cacheWriteKernel_refines (hpos : 0 < blockSize) (hbs : cache.blockSize = blockSize)
    (hs : slotMapping.length = key.length) (hv : value.length = key.length)
    (hin : ∀ slot ∈ slotMapping, InRange blockSize cache slot) (hn : (slotMapping.filter (· ≠ -1)).Nodup)
    (ho : order.Perm (List.range key.length)) :
    ∃ cache', writeToPagedCache key value cache slotMapping blockSize = (.ok (), cache') ∧
      order.foldlM (cacheWriteKernel (flat (flat key)) (flat (flat value)) slotMapping blockSize headDim heads)
        cache.flatten = .ok cache'.flatten :=
  ⟨_, writeToPagedCache_eq hpos hbs hs hv hin, cacheWriteGrid_reference hpos hbs hs hv hin hn ho⟩

theorem cacheWriteKernel_refines_skip :
    ∃ cache', LayerCache.writeToPagedCache [fun _ _ => 1, fun _ _ => 2] [fun _ _ => 3, fun _ _ => 4]
        (⟨2, 2, fun _ _ _ => 0, fun _ _ _ => 0⟩ : LayerCache (Fin 2 → Vec ℕ 3) (Fin 2 → Vec ℕ 3)) [3, -1] 2 =
          (.ok (), cache') ∧
      [1, 0].foldlM (cacheWriteKernel (flat (flat [fun (_ : Fin 2) (_ : Fin 3) => 1, fun _ _ => 2]))
        (flat (flat [fun (_ : Fin 2) (_ : Fin 3) => 3, fun _ _ => 4])) [3, -1] 2 3 2)
        (⟨2, 2, fun _ _ _ => 0, fun _ _ _ => 0⟩ : LayerCache (Fin 2 → Vec ℕ 3) (Fin 2 → Vec ℕ 3)).flatten =
          .ok cache'.flatten :=
  cacheWriteKernel_refines Nat.two_pos rfl rfl rfl
    (by
      intro slot hslot
      rcases List.mem_cons.mp hslot with rfl | hslot
      · exact Or.inr ⟨by decide, by decide⟩
      · exact Or.inl (List.mem_singleton.mp hslot))
    (by decide) (by decide)

end Reference

end PagedAttentionGpu

end MiniVllm
