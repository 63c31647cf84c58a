import MiniVllm.CacheProofs.PagedCache
import Mathlib.Data.List.GetD

/-! Writing the positions of a block table in any number of calls, and gathering them again. -/

namespace MiniVllm

namespace LayerCache

variable {K V : Type} {blockSize : ℕ}

def writeCall (blockSize : ℕ) (cache : LayerCache K V) (call : List (ℤ × K × V)) :
    Except CacheError Unit × LayerCache K V :=
  writeToPagedCache (call.map (·.2.1)) (call.map (·.2.2)) cache (call.map (·.1)) blockSize

def writeCalls (blockSize : ℕ) : LayerCache K V → List (List (ℤ × K × V)) → Except CacheError Unit × LayerCache K V :=
  forEach (writeCall blockSize)

def tableSlot (blockSize : ℕ) (table : List ℕ) (position : ℕ) : ℕ :=
  table.getD (position / blockSize) 0 * blockSize + position % blockSize

def tableSlots (blockSize : ℕ) (table : List ℕ) (n : ℕ) : List ℤ :=
  (List.range n).map (fun position => (tableSlot blockSize table position : ℤ))

def Named (blockSize : ℕ) (call : List (ℤ × K × V)) (cell : ℕ × ℕ) : Prop :=
  ∃ w ∈ call, 0 ≤ w.1 ∧ cellOf blockSize w.1.toNat = cell

def InRange (blockSize : ℕ) (cache : LayerCache K V) (slot : ℤ) : Prop :=
  slot = -1 ∨ (0 ≤ slot ∧ slot < (cache.numBlocks * blockSize : ℕ))

lemma writeCall_eq (hpos : 0 < blockSize) {cache : LayerCache K V} (hbs : cache.blockSize = blockSize)
    (call : List (ℤ × K × V)) : writeCall blockSize cache call = forEach (writeToken blockSize) cache call.zipIdx := by
  have hvalid : validateInputs (call.map (·.2.1)) (call.map (·.2.2)) cache (call.map (·.1)) blockSize = .ok () := by
    simp only [validateInputs, List.length_map, hbs, ne_eq, not_true_eq_false, if_false, if_neg hpos.ne']
  have hzip : (call.map (·.1)).zip ((call.map (·.2.1)).zip (call.map (·.2.2))) = call := by
    rw [List.zip_map', List.zip_map']
    exact List.map_id' call
  simp only [writeCall, writeToPagedCache, hvalid, hzip]

def unskipped (call : List (ℤ × K × V)) : List (ℕ × K × V) :=
  (call.filter (fun w => w.1 ≠ -1)).map (fun w => (w.1.toNat, w.2))

lemma unskipped_append (xs ys : List (ℤ × K × V)) : unskipped (xs ++ ys) = unskipped xs ++ unskipped ys := by
  rw [unskipped, List.filter_append, List.map_append]
  rfl

lemma writeAll_append (cache : LayerCache K V) (xs ys : List (ℕ × K × V)) :
    writeAll blockSize cache (xs ++ ys) = writeAll blockSize (writeAll blockSize cache xs) ys := by
  simp only [writeAll, List.map_append, scatter_append]

lemma unskipped_cons (w : ℤ × K × V) (call : List (ℤ × K × V)) :
    unskipped (w :: call) = unskipped [w] ++ unskipped call :=
  unskipped_append [w] call

lemma writeToken_inRange (cache : LayerCache K V) {w : ℤ × K × V} (t : ℕ) (h : InRange blockSize cache w.1) :
    writeToken blockSize cache (w, t) = (.ok (), writeAll blockSize cache (unskipped [w])) := by
  rcases h with hskip | ⟨hnonneg, hlt⟩
  · have hunskipped : unskipped [w] = [] := by
      simp [unskipped, hskip]
    simp only [writeToken, if_pos hskip, hunskipped]
    rfl
  · have hunskipped : unskipped [w] = [(w.1.toNat, w.2)] := by
      have hne : w.1 ≠ -1 := by omega
      simp [unskipped, hne]
    simp only [writeToken, hunskipped]
    rw [if_neg (by omega), if_neg (by omega)]
    rfl

lemma writeToken_outOfRange (cache : LayerCache K V) {w : ℤ × K × V} (t : ℕ) (h : ¬ InRange blockSize cache w.1) :
    writeToken blockSize cache (w, t) =
      (.error (.slotOutOfRange t w.1 (cache.numBlocks * blockSize) blockSize cache.numBlocks), cache) := by
  have hne : w.1 ≠ -1 := fun hskip => h (Or.inl hskip)
  have hout : w.1 < -1 ∨ (cache.numBlocks * blockSize : ℕ) ≤ w.1 := by
    by_contra hin
    exact h (Or.inr (by omega))
  simp only [writeToken]
  rw [if_neg hne, if_pos hout]

lemma forEach_written (cache : LayerCache K V) (call : List (ℤ × K × V)) (t : ℕ)
    (h : ∀ w ∈ call, InRange blockSize cache w.1) :
    forEach (writeToken blockSize) cache (call.zipIdx t) = (.ok (), writeAll blockSize cache (unskipped call)) := by
  induction call generalizing cache t with
  | nil => rfl
  | cons w call ih =>
    have hstep := writeToken_inRange cache t (h w List.mem_cons_self)
    rw [unskipped_cons, writeAll_append]
    simp only [List.zipIdx_cons, forEach, hstep]
    apply ih
    exact fun v hv => h v (List.mem_cons_of_mem _ hv)

lemma forEach_outOfRange (cache : LayerCache K V) (call : List (ℤ × K × V)) (t : ℕ)
    (h : ∃ w ∈ call, ¬ InRange blockSize cache w.1) :
    ∃ err cache', forEach (writeToken blockSize) cache (call.zipIdx t) = (.error err, cache') ∧
      err.toExn = .indexError := by
  induction call generalizing cache t with
  | nil =>
    obtain ⟨w, hw, -⟩ := h
    cases hw
  | cons w call ih =>
    simp only [List.zipIdx_cons, forEach]
    by_cases hw : InRange blockSize cache w.1
    · rw [writeToken_inRange cache t hw]
      apply ih
      obtain ⟨v, hv, hout⟩ := h
      rcases List.mem_cons.mp hv with rfl | hv
      · exact absurd hw hout
      · exact ⟨v, hv, hout⟩
    · rw [writeToken_outOfRange cache t hw]
      exact ⟨_, cache, rfl, rfl⟩

lemma forEach_frame (cache : LayerCache K V) (call : List (ℤ × K × V)) (t : ℕ) {cell : ℕ × ℕ}
    (h : ¬ Named blockSize call cell) :
    let cache' := (forEach (writeToken blockSize) cache (call.zipIdx t)).2
    cache'.numBlocks = cache.numBlocks ∧ cache'.blockSize = cache.blockSize ∧
      cache'.key cell = cache.key cell ∧ cache'.value cell = cache.value cell := by
  induction call generalizing cache t with
  | nil => exact ⟨rfl, rfl, rfl, rfl⟩
  | cons w call ih =>
    have hrest : ¬ Named blockSize call cell := by
      rintro ⟨v, hv, hcell⟩
      exact h ⟨v, List.mem_cons_of_mem _ hv, hcell⟩
    simp only [List.zipIdx_cons, forEach, writeToken]
    split_ifs with hskip hout
    · exact ih cache (t + 1) hrest
    · exact ⟨rfl, rfl, rfl, rfl⟩
    · have hne : cell ≠ cellOf blockSize w.1.toNat := fun hc =>
        h ⟨w, List.mem_cons_self, by omega, hc.symm⟩
      obtain ⟨hn, hb, hk, hv⟩ := ih (cache.setCell (cellOf blockSize w.1.toNat) w.2.1 w.2.2) (t + 1) hrest
      refine ⟨hn, hb, hk.trans ?_, hv.trans ?_⟩
      · exact Function.update_of_ne hne _ _
      · exact Function.update_of_ne hne _ _

lemma writeCalls_inRange (hpos : 0 < blockSize) {cache : LayerCache K V} (hbs : cache.blockSize = blockSize)
    (calls : List (List (ℤ × K × V))) (h : ∀ w ∈ calls.flatten, InRange blockSize cache w.1) :
    writeCalls blockSize cache calls = (.ok (), writeAll blockSize cache (unskipped calls.flatten)) := by
  induction calls generalizing cache with
  | nil => rfl
  | cons call calls ih =>
    rw [List.flatten_cons] at h ⊢
    have hcall := forEach_written cache call 0 fun w hw => h w (List.mem_append_left _ hw)
    rw [← writeCall_eq hpos hbs] at hcall
    have hrest := @ih (writeAll blockSize cache (unskipped call)) hbs fun w hw =>
      h w (List.mem_append_right _ hw)
    rw [unskipped_append, writeAll_append]
    simp only [writeCalls, forEach, hcall]
    exact hrest

lemma writeCalls_frame (hpos : 0 < blockSize) {cache : LayerCache K V} (hbs : cache.blockSize = blockSize)
    (calls : List (List (ℤ × K × V))) {cell : ℕ × ℕ} (h : ¬ Named blockSize calls.flatten cell) :
    (writeCalls blockSize cache calls).2.key cell = cache.key cell ∧
      (writeCalls blockSize cache calls).2.value cell = cache.value cell := by
  induction calls generalizing cache with
  | nil => exact ⟨rfl, rfl⟩
  | cons call calls ih =>
    rw [List.flatten_cons] at h
    have hcall : ¬ Named blockSize call cell := by
      rintro ⟨v, hv, hcell⟩
      exact h ⟨v, List.mem_append_left _ hv, hcell⟩
    have hrest : ¬ Named blockSize calls.flatten cell := by
      rintro ⟨v, hv, hcell⟩
      exact h ⟨v, List.mem_append_right _ hv, hcell⟩
    obtain ⟨-, hb, hk, hv⟩ := forEach_frame cache call 0 hcall
    rw [← writeCall_eq hpos hbs] at hb hk hv
    simp only [writeCalls, forEach]
    cases hc : writeCall blockSize cache call with
    | mk r cache' =>
      rw [hc] at hb hk hv
      cases r with
      | error err => exact ⟨hk, hv⟩
      | ok u =>
        obtain ⟨hk', hv'⟩ := ih (hb.trans hbs) hrest
        exact ⟨hk'.trans hk, hv'.trans hv⟩

lemma cellOf_tableSlot (hpos : 0 < blockSize) (table : List ℕ) (position : ℕ) :
    cellOf blockSize (tableSlot blockSize table position) = tableCell blockSize table position :=
  cellOf_slot (Nat.mod_lt _ hpos)

lemma tableCell_inj {table : List ℕ} (hn : table.Nodup) {p r : ℕ}
    (hp : p / blockSize < table.length) (hr : r / blockSize < table.length)
    (h : tableCell blockSize table p = tableCell blockSize table r) : p = r := by
  obtain ⟨hblock, hoffset⟩ := Prod.mk.inj h
  rw [List.getD_eq_getElem _ _ hp, List.getD_eq_getElem _ _ hr] at hblock
  have hdiv := (hn.getElem_inj_iff).mp hblock
  rw [← Nat.div_add_mod p blockSize, ← Nat.div_add_mod r blockSize, hdiv, hoffset]

lemma div_lt_of_covered (hpos : 0 < blockSize) {table : List ℕ} {n p : ℕ} (hcover : n ≤ table.length * blockSize)
    (hp : p < n) : p / blockSize < table.length :=
  (Nat.div_lt_iff_lt_mul hpos).mpr (hp.trans_le hcover)

lemma nodup_tableCells (hpos : 0 < blockSize) {table : List ℕ} (hn : table.Nodup) {n : ℕ}
    (hcover : n ≤ table.length * blockSize) : ((List.range n).map (tableCell blockSize table)).Nodup := by
  refine List.nodup_range.map_on fun p hp r hr h => ?_
  have hp := div_lt_of_covered hpos hcover (List.mem_range.mp hp)
  have hr := div_lt_of_covered hpos hcover (List.mem_range.mp hr)
  exact tableCell_inj hn hp hr h

/-- The calls write `rows` to the positions `0, 1, ...` of the table, in order. What else they hold is skipped, or goes
to other slots. -/
structure Chunks (blockSize : ℕ) (table : List ℕ) (rows : List (K × V)) (calls : List (List (ℤ × K × V))) : Prop where
  own : calls.flatten.filter (fun w => w.1 ∈ tableSlots blockSize table rows.length) =
    (tableSlots blockSize table rows.length).zip rows

section Chunks

variable {table : List ℕ} {rows : List (K × V)} {calls : List (List (ℤ × K × V))}

lemma cellOf_inj {s t : ℕ} (h : cellOf blockSize s = cellOf blockSize t) : s = t := by
  obtain ⟨hdiv, hmod⟩ := Prod.mk.inj h
  rw [← Nat.div_add_mod s blockSize, ← Nat.div_add_mod t blockSize, hdiv, hmod]

lemma mem_tableSlots (hpos : 0 < blockSize) {n : ℕ} {slot : ℤ} (h : 0 ≤ slot) :
    slot ∈ tableSlots blockSize table n ↔
      cellOf blockSize slot.toNat ∈ (List.range n).map (tableCell blockSize table) := by
  simp only [tableSlots, List.mem_map]
  apply exists_congr
  intro p
  rw [← cellOf_tableSlot hpos]
  constructor
  · rintro ⟨hp, rfl⟩
    exact ⟨hp, rfl⟩
  · rintro ⟨hp, hcell⟩
    refine ⟨hp, ?_⟩
    rw [cellOf_inj hcell, Int.toNat_of_nonneg h]

lemma Chunks.unskipped_own (hpos : 0 < blockSize) (hc : Chunks blockSize table rows calls)
    (hrange : ∀ w ∈ calls.flatten, w.1 = -1 ∨ 0 ≤ w.1) :
    (unskipped calls.flatten).filter
        (fun w => cellOf blockSize w.1 ∈ (List.range rows.length).map (tableCell blockSize table)) =
      ((tableSlots blockSize table rows.length).zip rows).map (fun w => (w.1.toNat, w.2)) := by
  rw [← hc.own, unskipped, List.filter_map, List.filter_filter]
  refine congrArg _ (List.filter_congr fun w hw => ?_)
  simp only [Function.comp_apply, ← Bool.decide_and, decide_eq_decide]
  rcases hrange w hw with hskip | hnonneg
  · have hnot : w.1 ∉ tableSlots blockSize table rows.length := by
      intro hm
      obtain ⟨p, -, hp⟩ := List.mem_map.mp hm
      omega
    exact iff_of_false (fun h => h.2 hskip) hnot
  · rw [mem_tableSlots hpos hnonneg]
    exact and_iff_left (by omega)

lemma Chunks.read (hpos : 0 < blockSize) (hn : table.Nodup) (hcover : rows.length ≤ table.length * blockSize)
    (hc : Chunks blockSize table rows calls) (hrange : ∀ w ∈ calls.flatten, w.1 = -1 ∨ 0 ≤ w.1)
    (cache : LayerCache K V) {p : ℕ} (hp : p < rows.length) :
    (writeAll blockSize cache (unskipped calls.flatten)).key (tableCell blockSize table p) = rows[p].1 ∧
      (writeAll blockSize cache (unskipped calls.flatten)).value (tableCell blockSize table p) = rows[p].2 := by
  have hfilter := hc.unskipped_own hpos hrange
  set own := ((tableSlots blockSize table rows.length).zip rows).map (fun w => (w.1.toNat, w.2)) with hown
  have hlen : (tableSlots blockSize table rows.length).length = rows.length := by
    rw [tableSlots, List.length_map, List.length_range]
  have hcells : own.map (fun w => cellOf blockSize w.1) = (List.range rows.length).map (tableCell blockSize table) := by
    have hslots : own.map (fun w => cellOf blockSize w.1) =
        (((tableSlots blockSize table rows.length).zip rows).map Prod.fst).map
          (fun slot => cellOf blockSize slot.toNat) := by
      rw [hown, List.map_map, List.map_map]
      rfl
    rw [hslots, List.map_fst_zip hlen.le, tableSlots, List.map_map]
    exact List.map_congr_left fun r _ => cellOf_tableSlot hpos table r
  have hnodup : (own.map (fun w => cellOf blockSize w.1)).Nodup := hcells ▸ nodup_tableCells hpos hn hcover
  have hmem : (tableSlot blockSize table p, rows[p]) ∈ own := by
    have hzip : p < ((tableSlots blockSize table rows.length).zip rows).length := by
      rw [List.length_zip, hlen, min_self]
      exact hp
    refine List.mem_map.mpr ⟨_, List.getElem_mem hzip, ?_⟩
    simp only [List.getElem_zip, tableSlots, List.getElem_map, List.getElem_range, Int.toNat_natCast]
  have hcell : tableCell blockSize table p ∈ (List.range rows.length).map (tableCell blockSize table) :=
    List.mem_map_of_mem (List.mem_range.mpr hp)
  -- The other writes go to other cells.
  have hread := writeAll_of_mem cache hnodup hmem
  rw [cellOf_tableSlot hpos, ← hfilter] at hread
  refine ⟨?_, ?_⟩
  · have hkey := scatter_filter
      (fun cell => decide (cell ∈ (List.range rows.length).map (tableCell blockSize table))) (decide_eq_true hcell)
      ((unskipped calls.flatten).map (fun w => (cellOf blockSize w.1, w.2.1))) cache.key
    rw [List.filter_map] at hkey
    exact hkey.symm.trans hread.1
  · have hvalue := scatter_filter
      (fun cell => decide (cell ∈ (List.range rows.length).map (tableCell blockSize table))) (decide_eq_true hcell)
      ((unskipped calls.flatten).map (fun w => (cellOf blockSize w.1, w.2.2))) cache.value
    rw [List.filter_map] at hvalue
    exact hvalue.symm.trans hread.2

end Chunks

lemma gatherBlocks_short (cache : LayerCache K V) (tableLength numTokens logicalIdx : ℕ) (table : List ℕ)
    (remaining : ℕ) (h : table.length * blockSize < remaining) :
    ∃ err, gatherBlocks cache tableLength numTokens blockSize logicalIdx table remaining = .error err ∧
      err.toExn = .indexError := by
  induction table generalizing logicalIdx remaining with
  | nil =>
    cases remaining with
    | zero => exact absurd h (Nat.not_lt_zero _)
    | succ n => exact ⟨_, rfl, rfl⟩
  | cons pid rest ih =>
    rw [List.length_cons, Nat.succ_mul] at h
    cases remaining with
    | zero => exact absurd h (Nat.not_lt_zero _)
    | succ n =>
      by_cases hid : cache.numBlocks ≤ pid
      · refine ⟨.blockIdOutOfRange pid cache.numBlocks, ?_, rfl⟩
        simp only [gatherBlocks, if_pos hid]
      · have hfull : min blockSize (n + 1) = blockSize := min_eq_left (by omega)
        obtain ⟨err, herr, hexn⟩ := ih (logicalIdx + 1) (n + 1 - min blockSize (n + 1)) (by omega)
        exact ⟨err, by simp only [gatherBlocks, if_neg hid, herr], hexn⟩

structure PagedRoundTrip (blockSize : ℕ) (cache : LayerCache K V) (table : List ℕ) : Prop where
  roundTrip : ∀ (rows : List (K × V)) (calls : List (List (ℤ × K × V))), rows.length ≤ table.length * blockSize →
    (∀ w ∈ calls.flatten, InRange blockSize cache w.1) → Chunks blockSize table rows calls →
      ∃ cache', writeCalls blockSize cache calls = (.ok (), cache') ∧
        gatherPagedKv cache' table rows.length blockSize = .ok (rows.map Prod.fst, rows.map Prod.snd)
  frame : ∀ (calls : List (List (ℤ × K × V))) (cell : ℕ × ℕ), ¬ Named blockSize calls.flatten cell →
    (writeCalls blockSize cache calls).2.key cell = cache.key cell ∧
      (writeCalls blockSize cache calls).2.value cell = cache.value cell
  outOfRange : ∀ call : List (ℤ × K × V), (∃ w ∈ call, ¬ InRange blockSize cache w.1) →
    ∃ err cache', writeCall blockSize cache call = (.error err, cache') ∧ err.toExn = .indexError
  uncovered : ∀ numTokens, table.length * blockSize < numTokens →
    ∃ err, gatherPagedKv cache table numTokens blockSize = .error err ∧ err.toExn = .indexError

theorem paged_round_trip (hpos : 0 < blockSize) {cache : LayerCache K V} (hbs : cache.blockSize = blockSize)
    {table : List ℕ} (hn : table.Nodup) (hids : ∀ b ∈ table, b < cache.numBlocks) :
    PagedRoundTrip blockSize cache table where
  roundTrip := by
    intro rows calls hcover hrange hc
    refine ⟨_, writeCalls_inRange hpos hbs calls hrange, ?_⟩
    have hnonneg : ∀ w ∈ calls.flatten, w.1 = -1 ∨ 0 ≤ w.1 := fun w hw => (hrange w hw).imp id And.left
    have hblocks : ∀ r < rows.length, ∃ b, table[r / blockSize]? = some b ∧
        b < (writeAll blockSize cache (unskipped calls.flatten)).numBlocks := by
      intro r hr
      have hlt := div_lt_of_covered hpos hcover hr
      exact ⟨_, List.getElem?_eq_getElem hlt, hids _ (List.getElem_mem hlt)⟩
    have hsize : (writeAll blockSize cache (unskipped calls.flatten)).blockSize = blockSize := hbs
    rw [gatherPagedKv_eq hpos hsize hblocks]
    have hread : ∀ r (hr : r < rows.length), _ := fun r hr => hc.read hpos hn hcover hnonneg cache hr
    refine congrArg Except.ok (Prod.ext ?_ ?_)
    · refine List.ext_getElem (by simp) fun r h₁ h₂ => ?_
      rw [List.getElem_map, List.getElem_map, List.getElem_range]
      exact (hread r (by simpa using h₂)).1
    · refine List.ext_getElem (by simp) fun r h₁ h₂ => ?_
      rw [List.getElem_map, List.getElem_map, List.getElem_range]
      exact (hread r (by simpa using h₂)).2
  frame := fun calls _ h => writeCalls_frame hpos hbs calls h
  outOfRange := by
    intro call h
    rw [writeCall_eq hpos hbs]
    exact forEach_outOfRange cache call 0 h
  uncovered := fun numTokens h => gatherBlocks_short cache table.length numTokens 0 table numTokens h

theorem paged_round_trip_two_blocks :
    PagedRoundTrip 2 (⟨4, 2, fun _ => 0, fun _ => 0⟩ : LayerCache ℕ ℕ) [3, 1] :=
  paged_round_trip Nat.two_pos rfl (by decide) (by decide)

example : Chunks 2 [3, 1] [(10, 20), (11, 21), (12, 22)]
    [[(6, 10, 20), (-1, 0, 0)], [(0, 5, 5), (7, 11, 21), (2, 12, 22)]] :=
  ⟨by decide⟩

end LayerCache

end MiniVllm
