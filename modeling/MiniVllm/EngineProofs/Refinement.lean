import MiniVllm.EngineProofs.Frames
import MiniVllm.EngineProofs.Schedule

/-! Every run of the engine is a run of the transition system. -/

namespace MiniVllm

open EngineCore

variable {ε : Type} {S : Setup ε} {c : CallCondition ε}

section Sequences

variable {queue : RequestQueue} {n : ℕ} (hq : QueueFormed queue n)

include hq

lemma scheduledSeqs_eq (ids : List RequestId) : scheduledSeqs queue ids = ids.filterMap queue.runningSeq := by
  induction ids with
  | nil => rfl
  | cons rid rest ih =>
    have hone : scheduledSeqs queue [rid] = (queue.runningSeq rid).toList := by
      simp only [scheduledSeqs, List.flatMap_cons, List.flatMap_nil, List.append_nil]
      cases hg : queue.running.get? rid with
      | none => simp [RequestQueue.runningSeq, hg]
      | some sg =>
        obtain ⟨-, -, q, hs, -⟩ := hq.running rid sg hg
        simp [hq.unfinished_eq hg, RequestQueue.runningSeq, hg, hs]
    have hsplit : scheduledSeqs queue (rid :: rest) = scheduledSeqs queue [rid] ++ scheduledSeqs queue rest := by
      simp [scheduledSeqs]
    rw [hsplit, hone, ih]
    cases hr : queue.runningSeq rid with
    | none => simp [hr]
    | some q => simp [hr]

lemma mem_scheduledSeqs {ids : List RequestId} {rid : RequestId} {q : Sequence} (hm : rid ∈ ids)
    (hr : queue.runningSeq rid = some q) : q ∈ scheduledSeqs queue ids := by
  rw [scheduledSeqs_eq hq]
  exact List.mem_filterMap.mpr ⟨rid, hm, hr⟩

lemma nodup_runningSeqs {ids : List RequestId} (hnd : ids.Nodup) :
    ((ids.filterMap queue.runningSeq).map (·.seqId)).Nodup := by
  induction ids with
  | nil => simp
  | cons rid rest ih =>
    simp only [List.nodup_cons] at hnd
    cases hr : queue.runningSeq rid with
    | none => simpa [hr] using ih hnd.2
    | some q =>
      simp only [List.filterMap_cons, hr, List.map_cons, List.nodup_cons]
      refine ⟨fun hm => ?_, ih hnd.2⟩
      obtain ⟨q', hq', hid⟩ := List.mem_map.mp hm
      obtain ⟨rid', hr', hrun⟩ := List.mem_filterMap.mp hq'
      rw [hq.runningSeq_seqId hrun, hq.runningSeq_seqId hr] at hid
      obtain rfl : rid' = rid := congrArg SeqId.request hid
      exact hnd.1 hr'

lemma liveSeqs_eq_runningSeqs : queue.liveSeqs = queue.running.keys.filterMap queue.runningSeq := by
  rw [← scheduledSeqs_eq hq, RequestQueue.liveSeqs, scheduledSeqs, Dict.values, Dict.keys, List.flatMap_map,
    List.flatMap_map]
  refine List.flatMap_congr fun e he => ?_
  rw [(queue.running.mem_entries e.1 e.2).mp he]

lemma nodup_liveSeqs : (queue.liveSeqs.map (·.seqId)).Nodup := by
  rw [liveSeqs_eq_runningSeqs hq]
  exact nodup_runningSeqs hq queue.running.nodup

variable {result : ScheduleResult}

lemma mem_prefillSeqs {q : Sequence} (h : q ∈ prefillSeqs queue result) :
    queue.runningSeq q.seqId.request = some q ∧ q.status = .prefill := by
  simp only [prefillSeqs, scheduledSeqs_eq hq, List.mem_filter, List.mem_filterMap,
    decide_eq_true_eq] at h
  obtain ⟨⟨rid, -, hr⟩, hs⟩ := h
  exact ⟨by rw [hq.runningSeq_seqId hr]; exact hr, hs⟩

lemma mem_decodeSeqs (hs : Scheduled queue result.scheduledPrefillGroups result.scheduledDecodeGroups)
    {q : Sequence} (h : q ∈ decodeSeqs queue result) :
    queue.runningSeq q.seqId.request = some q ∧ q.status = .running ∧
      (q.numGeneratedTokens : ℤ) < q.samplingParams.maxTokens := by
  simp only [decodeSeqs, scheduledSeqs_eq hq, List.mem_filterMap] at h
  obtain ⟨rid, hm, hr⟩ := h
  obtain ⟨q', hr', hst⟩ := hs.decode rid hm
  obtain rfl : q' = q := Option.some.inj (hr'.symm.trans hr)
  exact ⟨by rw [hq.runningSeq_seqId hr]; exact hr, hst⟩

lemma nodup_batch (hs : Scheduled queue result.scheduledPrefillGroups result.scheduledDecodeGroups) :
    ((prefillSeqs queue result ++ decodeSeqs queue result).map (·.seqId)).Nodup := by
  have h := nodup_runningSeqs hq hs.nodup
  rw [List.filterMap_append] at h
  refine h.sublist (List.Sublist.map _ (List.Sublist.append ?_ ?_))
  · rw [prefillSeqs, scheduledSeqs_eq hq]
    exact List.filter_sublist
  · rw [decodeSeqs, scheduledSeqs_eq hq]

end Sequences

def Ordered (calls : List (Sequence × ℕ)) : Prop :=
  ∀ before call after, calls = before ++ call :: after →
    call.2 ≤ call.1.kvLen ∨ 0 < call.2 ∧ (call.1, call.2 - 1) ∈ before

lemma Ordered.nil : Ordered [] := by
  intro before call after h
  simp at h

lemma Ordered.append {xs ys : List (Sequence × ℕ)} (hx : Ordered xs) (hy : Ordered ys) : Ordered (xs ++ ys) := by
  intro before call after h
  rcases List.append_eq_append_iff.mp h with ⟨more, rfl, hys⟩ | ⟨more, hxs, hcall⟩
  · exact (hy more call after hys).imp id (fun h => ⟨h.1, List.mem_append_right xs h.2⟩)
  · cases more with
    | nil => exact (hy [] call after hcall.symm).imp id (fun h => by simp at h)
    | cons x rest =>
      obtain ⟨rfl, -⟩ := List.cons.inj hcall
      exact hx before call rest hxs

lemma Ordered.range (q : Sequence) (start k : ℕ) (h : start ≤ q.kvLen) :
    Ordered ((List.range' start k).map (q, ·)) := by
  intro before call after hsplit
  have hi : ((List.range' start k).map (q, ·))[before.length]? = some call := by rw [hsplit]; simp
  have hpre : before = ((List.range' start k).map (q, ·)).take before.length := by rw [hsplit]; simp
  simp only [List.getElem?_map, Option.map_eq_some_iff] at hi
  obtain ⟨position, hp, rfl⟩ := hi
  obtain ⟨hk, hval⟩ := List.getElem?_eq_some_iff.mp hp
  rw [List.getElem_range', Nat.one_mul] at hval
  simp only [List.length_range'] at hk
  rcases Nat.eq_zero_or_pos before.length with hz | hz
  · exact Or.inl (by simp only; omega)
  · refine Or.inr ⟨by simp only; omega, ?_⟩
    rw [hpre, ← List.map_take]
    refine List.mem_map.mpr ⟨position - 1, ?_, rfl⟩
    refine List.mem_take_iff_getElem.mpr ⟨before.length - 1, ?_, ?_⟩
    · simp only [List.length_range']
      omega
    · rw [List.getElem_range']
      omega

lemma Ordered.flatMap (f : Sequence → List (Sequence × ℕ)) (qs : List Sequence) (h : ∀ q ∈ qs, Ordered (f q)) :
    Ordered (qs.flatMap f) := by
  induction qs with
  | nil => exact Ordered.nil
  | cons q rest ih =>
    rw [List.flatMap_cons]
    exact (h q (by simp)).append (ih fun q' hq' => h q' (List.mem_cons_of_mem q hq'))

lemma Ordered.decodes (qs : List Sequence) (h : ∀ q ∈ qs, decodePosition q ≤ q.kvLen) :
    Ordered (qs.map (fun q => (q, decodePosition q))) := by
  intro before call after hsplit
  have hm : call ∈ qs.map (fun q => (q, decodePosition q)) := by rw [hsplit]; simp
  obtain ⟨q, hq, rfl⟩ := List.mem_map.mp hm
  exact Or.inl (h q hq)

lemma mem_ensureCalls {config : Config} {prefill decode : List Sequence} {call : Sequence × ℕ} :
    call ∈ ensureCalls config prefill decode ↔
      (call.1 ∈ prefill ∧ call.1.prefillCursor ≤ call.2 ∧ call.2 < chunkEnd config call.1) ∨
        (call.1 ∈ decode ∧ call.2 = decodePosition call.1) := by
  obtain ⟨q, position⟩ := call
  simp only [ensureCalls, List.mem_append, List.mem_flatMap, List.mem_map, List.mem_range'_1, Prod.mk.injEq]
  refine or_congr ⟨?_, ?_⟩ ⟨?_, ?_⟩
  · rintro ⟨q', hq', p, ⟨h₁, h₂⟩, rfl, rfl⟩
    exact ⟨hq', h₁, by omega⟩
  · rintro ⟨hq, h₁, h₂⟩
    exact ⟨q, hq, position, ⟨h₁, by omega⟩, rfl, rfl⟩
  · rintro ⟨q', hq', rfl, rfl⟩
    exact ⟨hq', rfl⟩
  · rintro ⟨hq, rfl⟩
    exact ⟨q, hq, rfl, rfl⟩

lemma Ensures.length_le {P : BlockParams ε} {q : Sequence} {position : ℕ} {bm bm' : BlockManager ε}
    {r : Except Exn (Option ℕ)} (h : BlockManager.Ensures P q position bm r bm') (sid : SeqId) :
    (bm.getBlockTable sid).length ≤ (bm'.getBlockTable sid).length := by
  have hgrow : ∀ p, (bm'.getBlockTable sid = if sid = q.seqId then bm.getBlockTable q.seqId ++ [p]
      else bm.getBlockTable sid) → (bm.getBlockTable sid).length ≤ (bm'.getBlockTable sid).length := by
    intro p ht
    rw [ht]
    split_ifs with hs
    · simp [hs]
    · exact le_refl _
  cases h with
  | covered => exact le_refl _
  | outOfMemory => exact le_refl _
  | hit _ p _ _ _ _ hs => exact hgrow p (hs.table sid)
  | miss p _ _ _ ht => exact hgrow p (ht.table sid)

lemma Ensures.covered_of_ok {P : BlockParams ε} {q : Sequence} {position : ℕ} {bm bm' : BlockManager ε}
    {v : Option ℕ} (h : BlockManager.Ensures P q position bm (.ok v) bm') :
    position / P.blockSize < (bm'.getBlockTable q.seqId).length := by
  cases h with
  | covered h => exact h
  | hit _ p _ hlen _ _ hs => simp [hs.table, hlen]
  | miss p _ hlen _ ht => simp [ht.table, hlen]

section EnsureLoop

variable {s₀ : CoreState ε} (h₀ : WellFormed S s₀) {queue : RequestQueue} {prefill decode : List Sequence}

structure Ensuring (S : Setup ε) (c : CallCondition ε) (s₀ : CoreState ε) (queue : RequestQueue)
    (calls : List (Sequence × ℕ)) (bm : BlockManager ε) (rest : List (Sequence × ℕ)) : Prop where
  reach : Reaches S c s₀ ⟨queue, bm, s₀.seqGroupCount⟩
  pending : ∀ call ∈ rest, call ∈ calls
  next : ∀ before call after, rest = before ++ call :: after → call.2 ≤ call.1.kvLen ∨
    0 < call.2 ∧ ((call.1, call.2 - 1) ∈ before ∨
      (call.2 - 1) / S.config.blockSize < (bm.getBlockTable call.1.seqId).length)
  done : ∀ call ∈ calls, call ∈ rest ∨ call.2 / S.config.blockSize < (bm.getBlockTable call.1.seqId).length

lemma div_le_of_pred {a b length : ℕ} (ha : 0 < a) (h : (a - 1) / b < length) :
    a / b ≤ length := by
  obtain ⟨k, rfl⟩ : ∃ k, a = k + 1 := ⟨a - 1, by omega⟩
  rw [Nat.add_sub_cancel] at h
  have := Nat.succ_div (a := k) (b := b)
  split_ifs at this <;> omega

variable (hlive : ∀ call ∈ ensureCalls S.config prefill decode,
  queue.runningSeq call.1.seqId.request = some call.1 ∧
    ((call.1.status = .prefill ∧ call.1.prefillCursor ≤ call.2 ∧ call.2 < chunkEnd S.config call.1) ∨
      (call.1.status = .running ∧ call.2 = decodePosition call.1)))

include h₀ hlive

lemma Ensuring.ready {bm : BlockManager ε} {call : Sequence × ℕ} {rest : List (Sequence × ℕ)}
    (h : Ensuring S c s₀ queue (ensureCalls S.config prefill decode) bm (call :: rest)) :
    EnsureReady S.config queue bm call.1 call.2 := by
  have hwf := h₀.reaches h.reach
  obtain ⟨hl, hplace⟩ := hlive call (h.pending call (by simp))
  refine ⟨hl, ?_, hplace⟩
  rcases h.next [] call rest rfl with hle | ⟨hpos, hbefore | hcov⟩
  · have hcov := hwf.covered _ _ hl
    rw [← Nat.lt_add_one_iff]
    refine (Nat.div_lt_iff_lt_mul S.config.blockSize_pos).mpr ?_
    have hpos := S.config.blockSize_pos
    have hle' : call.2 ≤ (bm.getBlockTable call.1.seqId).length * S.config.blockSize := hle.trans hcov
    rw [Nat.add_mul, Nat.one_mul]
    omega
  · simp at hbefore
  · exact div_le_of_pred hpos hcov

lemma Ensuring.spec {bm : BlockManager ε} {call : Sequence × ℕ} {rest : List (Sequence × ℕ)}
    (h : Ensuring S c s₀ queue (ensureCalls S.config prefill decode) bm (call :: rest)) :
    BlockManager.Ensures S.blockParams call.1 call.2 bm (bm.ensureBlock S.blockParams call.1 call.2).1
      (bm.ensureBlock S.blockParams call.1 call.2).2 :=
  (h₀.reaches h.reach).ensures (h.ready h₀ hlive)

lemma Ensuring.step {bm : BlockManager ε} {call : Sequence × ℕ} {rest : List (Sequence × ℕ)}
    (h : Ensuring S c s₀ queue (ensureCalls S.config prefill decode) bm (call :: rest))
    (hc : c.ensure queue bm call.1 call.2) :
    Reaches S c s₀ ⟨queue, (ensureStep S bm call).2, s₀.seqGroupCount⟩ ∧
      ((ensureStep S bm call).1 = .ok () →
        Ensuring S c s₀ queue (ensureCalls S.config prefill decode) (ensureStep S bm call).2 rest) := by
  have hspec := h.spec h₀ hlive
  have ht : Transition S c ⟨queue, bm, s₀.seqGroupCount⟩ _ :=
    .ensure _ call.1 call.2 (h.ready h₀ hlive) hc
  have hreach := h.reach.tail ht
  simp only at hreach
  have hmono := fun sid => Ensures.length_le hspec sid
  cases he : bm.ensureBlock S.blockParams call.1 call.2 with
  | mk r bm' =>
    rw [he] at hspec hmono hreach
    cases r with
    | error err =>
      simp only [ensureStep, he]
      exact ⟨hreach, fun hr => by cases hr⟩
    | ok v =>
      have hcov := Ensures.covered_of_ok hspec
      simp only [ensureStep, he]
      refine ⟨hreach, fun _ => ⟨hreach, fun x hx => h.pending x (List.mem_cons_of_mem call hx), ?_, ?_⟩⟩
      · intro before x after hsplit
        rcases h.next (call :: before) x after (by rw [hsplit]; rfl) with hle | ⟨hpos, hbefore | hcov'⟩
        · exact Or.inl hle
        · rcases List.mem_cons.mp hbefore with heq | hbefore
          · refine Or.inr ⟨hpos, Or.inr ?_⟩
            rw [← heq] at hcov
            exact hcov
          · exact Or.inr ⟨hpos, Or.inl hbefore⟩
        · exact Or.inr ⟨hpos, Or.inr (hcov'.trans_le (hmono _))⟩
      · intro x hx
        rcases h.done x hx with hx | hx
        · rcases List.mem_cons.mp hx with rfl | hx
          · exact Or.inr hcov
          · exact Or.inl hx
        · exact Or.inr (hx.trans_le (hmono _))

end EnsureLoop

lemma Ensuring.batchReady {s₀ : CoreState ε} {queue : RequestQueue} {prefill decode : List Sequence}
    {bm : BlockManager ε}
    (h : Ensuring S c s₀ queue (ensureCalls S.config prefill decode) bm [])
    (hp : ∀ q ∈ prefill, queue.runningSeq q.seqId.request = some q ∧ q.status = .prefill)
    (hd : ∀ q ∈ decode, queue.runningSeq q.seqId.request = some q ∧ q.status = .running ∧
      (q.numGeneratedTokens : ℤ) < q.samplingParams.maxTokens)
    (hnd : ((prefill ++ decode).map (·.seqId)).Nodup) : BatchReady S.config queue bm prefill decode := by
  have hdone : ∀ call ∈ ensureCalls S.config prefill decode,
      call.2 / S.config.blockSize < (bm.getBlockTable call.1.seqId).length :=
    fun call hm => (h.done call hm).resolve_left (by simp)
  refine ⟨hp, hd, hnd, fun q hq position h₁ h₂ => ?_, fun q hq => ?_⟩
  · exact hdone (q, position) (mem_ensureCalls.mpr (Or.inl ⟨hq, h₁, h₂⟩))
  · exact hdone (q, decodePosition q) (mem_ensureCalls.mpr (Or.inr ⟨hq, rfl⟩))

lemma ordered_ensureCalls {config : Config} {prefill decode : List Sequence}
    (hp : ∀ q ∈ prefill, q.status = .prefill) (hd : ∀ q ∈ decode, q.status = .running) :
    Ordered (ensureCalls config prefill decode) := by
  refine (Ordered.flatMap _ prefill fun q hq => ?_).append (Ordered.decodes decode fun q hq => ?_)
  · exact Ordered.range q _ _ (LivePhase.kvLen_prefill (hp q hq)).ge
  · exact (LivePhase.kvLen_running (hd q hq)).ge

theorem executeStep_refines {s₀ : CoreState ε} (h₀ : WellFormed S s₀) {queue : RequestQueue}
    {bm : BlockManager ε} {prefill decode : List Sequence}
    (hreach : Reaches S c s₀ ⟨queue, bm, s₀.seqGroupCount⟩)
    (hp : ∀ q ∈ prefill, queue.runningSeq q.seqId.request = some q ∧ q.status = .prefill)
    (hd : ∀ q ∈ decode, queue.runningSeq q.seqId.request = some q ∧ q.status = .running ∧
      (q.numGeneratedTokens : ℤ) < q.samplingParams.maxTokens)
    (hnd : ((prefill ++ decode).map (·.seqId)).Nodup)
    (hc : (prefill.isEmpty && decode.isEmpty) = false → c.Execute S queue bm prefill decode) :
    Reaches S c s₀ ⟨(executeStep S queue bm prefill decode).2.1,
      (executeStep S queue bm prefill decode).2.2, s₀.seqGroupCount⟩ ∧
      ((prefill.isEmpty && decode.isEmpty) = false →
        (c.visited S s₀).Execute S queue bm prefill decode) := by
  have hlive : ∀ call ∈ ensureCalls S.config prefill decode,
      queue.runningSeq call.1.seqId.request = some call.1 ∧
        ((call.1.status = .prefill ∧ call.1.prefillCursor ≤ call.2 ∧ call.2 < chunkEnd S.config call.1) ∨
          (call.1.status = .running ∧ call.2 = decodePosition call.1)) := by
    intro call hm
    rcases mem_ensureCalls.mp hm with ⟨hq, h₁, h₂⟩ | ⟨hq, h₁⟩
    · exact ⟨(hp _ hq).1, Or.inl ⟨(hp _ hq).2, h₁, h₂⟩⟩
    · exact ⟨(hd _ hq).1, Or.inr ⟨(hd _ hq).2.1, h₁⟩⟩
  cases hempty : prefill.isEmpty && decode.isEmpty with
  | true =>
    simp only [executeStep, hempty, if_true]
    exact ⟨hreach, fun h => by cases h⟩
  | false =>
    obtain ⟨hensure, hbatch⟩ := hc hempty
    have hi : Ensuring S c s₀ queue (ensureCalls S.config prefill decode) bm
        (ensureCalls S.config prefill decode) := by
      refine ⟨hreach, fun _ h => h, fun before call after hs => ?_, fun _ h => Or.inl h⟩
      exact (ordered_ensureCalls (fun q hq => (hp q hq).2) (fun q hq => (hd q hq).2.1) before call after hs).imp
        id (fun h => ⟨h.1, Or.inl h.2⟩)
    have hok : ∀ bm call rest bm', Ensuring S c s₀ queue (ensureCalls S.config prefill decode) bm
        (call :: rest) → c.ensure queue bm call.1 call.2 → ensureStep S bm call = (.ok (), bm') →
        Ensuring S c s₀ queue (ensureCalls S.config prefill decode) bm' rest := by
      intro bm call rest bm' hi hce he
      have h := (hi.step h₀ hlive hce).2 (by rw [he])
      rwa [he] at h
    have herr : ∀ bm call rest err bm', Ensuring S c s₀ queue (ensureCalls S.config prefill decode) bm
        (call :: rest) → c.ensure queue bm call.1 call.2 → ensureStep S bm call = (.error err, bm') →
        Reaches S c s₀ ⟨queue, bm', s₀.seqGroupCount⟩ := by
      intro bm call rest err bm' hi hce he
      have h := (hi.step h₀ hlive hce).1
      rwa [he] at h
    have hvisit : ForEachAll (fun bm call => (c.visited S s₀).ensure queue bm call.1 call.2) (ensureStep S) bm
        (ensureCalls S.config prefill decode) :=
      ForEachAll.mono hok (fun bm call rest hi hce => ⟨hce, hi.reach, hi.ready h₀ hlive⟩) hi hensure
    obtain ⟨hdone, hraise⟩ := forEach_rule hok herr hi hensure
    simp only [executeStep, hempty, Bool.false_eq_true, if_false]
    cases hloop : forEach (ensureStep S) bm (ensureCalls S.config prefill decode) with
    | mk r bm' =>
      cases r with
      | error err =>
        exact ⟨hraise err bm' hloop, fun _ => ⟨hvisit, by simp only [hloop]⟩⟩
      | ok u =>
        have hend := hdone bm' hloop
        have hready := hend.batchReady hp hd hnd
        simp only [hloop] at hbatch
        have ht : Transition S c ⟨queue, bm', s₀.seqGroupCount⟩ _ := .batch _ prefill decode hready hbatch
        exact ⟨hend.reach.tail ht, fun _ => ⟨hvisit, by simp only [hloop]; exact ⟨hbatch, hend.reach, hready⟩⟩⟩

inductive Executes (S : Setup ε) (c : CallCondition ε) (s : CoreState ε) (prefill decode : List Sequence) :
    Except Exn Unit → RequestQueue → BlockManager ε → Prop
  | kept (r : Except Exn Unit) (bm : BlockManager ε)
      (hempty : r = .ok () → (prefill.isEmpty && decode.isEmpty) = true) :
      Executes S c s prefill decode r s.queue bm
  | done (bm : BlockManager ε) (output : ModelRunnerOutput) (x : ε) (queue : RequestQueue)
      (hreach : Reaches S c s ⟨s.queue, bm, s.seqGroupCount⟩)
      (hready : BatchReady S.config s.queue bm prefill decode)
      (hrunning : ∀ rid, queue.running.get? rid = (s.queue.running.get? rid).map (SequenceGroup.mapSeqs
        (afterBatch S.config (prefill.map (·.seqId)) (decode.map (·.seqId)) (tokenOf output)))) :
      Executes S c s prefill decode (.ok ()) queue
        ((bm.withListener x).record (kvWrites (prefill ++ decode) (batchInput S.config bm prefill decode)))

theorem executeStep_spec {s : CoreState ε} (hw : WellFormed S s) {prefill decode : List Sequence}
    (hvisit : (prefill.isEmpty && decode.isEmpty) = false →
      (c.visited S s).Execute S s.queue s.blockManager prefill decode) :
    Executes S c s prefill decode (executeStep S s.queue s.blockManager prefill decode).1
      (executeStep S s.queue s.blockManager prefill decode).2.1
      (executeStep S s.queue s.blockManager prefill decode).2.2 := by
  cases hempty : prefill.isEmpty && decode.isEmpty with
  | true =>
    simp only [executeStep, hempty, if_true]
    exact .kept _ _ fun _ => hempty
  | false =>
    have hbatch := (hvisit hempty).2
    simp only [executeStep, hempty, Bool.false_eq_true, if_false]
    cases hloop : forEach (ensureStep S) s.blockManager (ensureCalls S.config prefill decode) with
    | mk r bm =>
      cases r with
      | error err => exact .kept _ _ fun h => by cases h
      | ok u =>
        rw [hloop] at hbatch
        obtain ⟨-, hreach, hready⟩ := hbatch
        have hwb := hw.reaches hreach
        obtain ⟨r, queue, bm', hran, hspec⟩ := hwb.runBatch_cases hready
        simp only at hran
        simp only [hran]
        cases hspec with
        | failed err x => exact .kept _ _ fun h => by cases h
        | done output x _ hexec hwt hfn hrj hrun => exact .done bm output x queue hreach hready hrun

lemma cleanupFinished_refines (s : EngineState ε) (result : ScheduleResult) :
    Reaches S c s.core (cleanupFinished S s result).core := by
  have hseqs : ∀ (seqs : List Sequence) (s : EngineState ε), Reaches S c s.core
      (seqs.foldl (fun s q => registerSequence (cleanupSequence S s q.seqId) q) s).core := by
    intro seqs
    induction seqs with
    | nil => exact fun s => Relation.ReflTransGen.refl
    | cons q rest ih =>
      exact fun s => .head (.cleanup s.core q.seqId) (ih (registerSequence (cleanupSequence S s q.seqId) q))
  unfold cleanupFinished
  induction result.finishedGroups generalizing s with
  | nil => exact Relation.ReflTransGen.refl
  | cons rid rest ih =>
    rw [List.foldl_cons]
    refine Relation.ReflTransGen.trans ?_ (ih _)
    cases s.queue.finished.get? rid with
    | none => exact Relation.ReflTransGen.refl
    | some sg => exact hseqs sg.seqs s

lemma captureOutputs_core (s : EngineState ε) (result : ScheduleResult) :
    (LLMEngine.captureOutputs S s result).core = s.core := by
  obtain ⟨outputs, h⟩ := captureOutputs_frame S s result
  rw [h]
  rfl

theorem CallCondition.Schedule.imp {c d : CallCondition ε} {queue : RequestQueue} {bm : BlockManager ε}
    (hprobe : ∀ qu bm sg, c.probe qu bm sg → d.probe qu bm sg)
    (hadmission : ∀ qu bm sg, c.admission qu bm sg → d.admission qu bm sg)
    (h : c.Schedule S queue bm) : d.Schedule S queue bm := by
  unfold CallCondition.Schedule at h ⊢
  split at h
  · trivial
  · refine ForEachAll.mono (I := fun _ _ => True) (fun _ _ _ _ _ _ _ => trivial) ?_ trivial h
    intro l sg _ _ hc
    exact ⟨fun hs => hprobe _ _ _ (hc.1 hs), fun hd => hadmission _ _ _ (hc.2 hd)⟩

theorem CallCondition.Execute.imp {c d : CallCondition ε} {queue : RequestQueue} {bm : BlockManager ε}
    {prefill decode : List Sequence}
    (hensure : ∀ qu bm q position, c.ensure qu bm q position → d.ensure qu bm q position)
    (hbatch : ∀ qu bm prefill decode, c.batch qu bm prefill decode → d.batch qu bm prefill decode)
    (h : c.Execute S queue bm prefill decode) : d.Execute S queue bm prefill decode := by
  refine ⟨ForEachAll.mono (I := fun _ _ => True) (fun _ _ _ _ _ _ _ => trivial)
    (fun bm call _ _ hc => hensure _ _ _ _ hc) trivial h.1, ?_⟩
  have h₂ := h.2
  revert h₂
  cases forEach (ensureStep S) bm (ensureCalls S.config prefill decode) with
  | mk r bm' =>
    cases r with
    | error err => exact fun _ => trivial
    | ok u => exact fun h₂ => hbatch _ _ _ _ h₂

theorem CallCondition.Step.imp {c d : CallCondition ε} {s : EngineState ε} {now : ℚ}
    (hprobe : ∀ qu bm sg, c.probe qu bm sg → d.probe qu bm sg)
    (hadmission : ∀ qu bm sg, c.admission qu bm sg → d.admission qu bm sg)
    (hensure : ∀ qu bm q position, c.ensure qu bm q position → d.ensure qu bm q position)
    (hbatch : ∀ qu bm prefill decode, c.batch qu bm prefill decode → d.batch qu bm prefill decode)
    (h : c.Step S s now) : d.Step S s now := by
  refine ⟨CallCondition.Schedule.imp hprobe hadmission h.1, ?_⟩
  have h₂ := h.2
  revert h₂
  cases Scheduler.schedule S (beginStep S s now).queue (beginStep S s now).blockManager with
  | mk r rest =>
    cases r with
    | error err => exact fun _ => trivial
    | ok result => exact fun h₂ hne => CallCondition.Execute.imp hensure hbatch (h₂ hne)

theorem beginStep_refines {s : EngineState ε} (h : WellFormed S s.core) (now : ℚ) :
    Reaches S c s.core (beginStep S s now).core :=
  checkTimeouts_refines (s := { s with stepCount := s.stepCount + 1 }) h now

lemma Reaches.seqGroupCount_le {s s' : CoreState ε} (h : Reaches S c s s') :
    s.seqGroupCount ≤ s'.seqGroupCount := by
  induction h with
  | refl => exact le_refl _
  | tail _ ht ih =>
    refine ih.trans ?_
    cases ht <;> simp

/-- One engine step: the transitions it makes, and where each of its calls is made. -/
theorem step_refines {s : EngineState ε} (h : WellFormed S s.core) {now : ℚ} (hc : c.Step S s now) :
    Reaches S c s.core (EngineCore.step S s now).2.core ∧
      (c.visited S (beginStep S s now).core).Step S s now := by
  have hb := beginStep_refines (c := c) h now
  have hwf := h.reaches hb
  obtain ⟨⟨result, queue, bm, hsched, hreach, hscheduled⟩, hvisit⟩ := schedule_refines hwf hc.1
  have hq := (hwf.reaches hreach).queue
  have hsched' : Scheduler.schedule S (beginStep S s now).queue (beginStep S s now).blockManager =
      (.ok result, queue, bm) := hsched
  have hexec := hc.2
  simp only [hsched'] at hexec
  obtain ⟨hreach', hvisit'⟩ := executeStep_refines hwf hreach (fun q hm => mem_prefillSeqs hq hm)
    (fun q hm => mem_decodeSeqs hq hscheduled hm) (nodup_batch hq hscheduled) hexec
  refine ⟨?_, hvisit, by simp only [hsched']; exact hvisit'⟩
  simp only [EngineCore.step, hsched']
  cases he : executeStep S queue bm (prefillSeqs queue result) (decodeSeqs queue result) with
  | mk r rest =>
    obtain ⟨queue', bm'⟩ := rest
    rw [he] at hreach'
    cases r with
    | error err => exact hb.trans hreach'
    | ok u =>
      exact (hb.trans hreach').trans (cleanupFinished_refines
        { beginStep S s now with queue := queue', blockManager := bm' } result)

theorem apply_refines {s : EngineState ε} (h : WellFormed S s.core) {op : LLMEngine.Op}
    (hc : c.Apply S s op) : Reaches S c s.core (LLMEngine.apply S s op).core := by
  cases op with
  | addRequest prompt maxNewTokens now =>
    exact Reaches.single S c (.submit s.core { requestId := s.seqGroupCount
                                               samplingParams := { maxTokens := maxNewTokens }
                                               promptTokenIds := S.executor.tokenize prompt
                                               arrivalTime := now } rfl rfl)
  | step now =>
    have hr := (step_refines h hc).1
    simp only [LLMEngine.apply, LLMEngine.step]
    cases he : EngineCore.step S s now with
    | mk r s' =>
      rw [he] at hr
      cases r with
      | error err => exact hr
      | ok result => simpa only [captureOutputs_core] using hr
  | cancelRequest rid => exact cancelRequest_refines h rid
  | checkTimeouts now => exact checkTimeouts_refines h now

theorem runFrom_refines {s : EngineState ε} (h : WellFormed S s.core) (ops : List LLMEngine.Op)
    (hc : c.RunFrom S s ops) : Reaches S c s.core (ops.foldl (LLMEngine.apply S) s).core := by
  induction ops generalizing s with
  | nil => exact Relation.ReflTransGen.refl
  | cons op rest ih =>
    have hr := apply_refines h hc.1
    exact hr.trans (ih (h.reaches hr) hc.2)

theorem run_refines {ops : List LLMEngine.Op} (hc : c.Run S ops) :
    Reaches S c (LLMEngine.initial S).core (LLMEngine.run S ops).core :=
  runFrom_refines (WellFormed.initial S) ops hc

theorem run_invariant {I : CoreState ε → Prop} (hinit : I (LLMEngine.initial S).core)
    (hstep : ∀ s s', WellFormed S s → I s → Transition S c s s' → I s') {s : CoreState ε}
    (hr : Reaches S c (LLMEngine.initial S).core s) : I s := by
  induction hr with
  | refl => exact hinit
  | tail hr ht ih => exact hstep _ _ ((WellFormed.initial S).reaches hr) ih ht

lemma StepCondition.runFrom_append (C : StepCondition ε) (s : EngineState ε) (xs ys : List LLMEngine.Op) :
    C.RunFrom S s (xs ++ ys) ↔ C.RunFrom S s xs ∧ C.RunFrom S (xs.foldl (LLMEngine.apply S) s) ys := by
  induction xs generalizing s with
  | nil => simp [StepCondition.RunFrom]
  | cons op rest ih => simp only [List.cons_append, StepCondition.RunFrom, ih, List.foldl_cons, and_assoc]

lemma schedule_of_forall (hprobe : ∀ qu bm sg, c.probe qu bm sg) (hadmission : ∀ qu bm sg, c.admission qu bm sg)
    (queue : RequestQueue) (bm : BlockManager ε) : c.Schedule S queue bm := by
  unfold CallCondition.Schedule
  split
  · trivial
  · exact ForEachAll.of_forall (fun _ _ => ⟨fun _ => hprobe _ _ _, fun _ => hadmission _ _ _⟩) _ _

lemma execute_of_forall (hensure : ∀ qu bm q position, c.ensure qu bm q position)
    (hbatch : ∀ qu bm prefill decode, c.batch qu bm prefill decode) (queue : RequestQueue) (bm : BlockManager ε)
    (prefill decode : List Sequence) : c.Execute S queue bm prefill decode := by
  refine ⟨ForEachAll.of_forall (fun _ _ => hensure _ _ _ _) _ _, ?_⟩
  split
  · trivial
  · exact hbatch _ _ _ _

section Always

variable (hprobe : ∀ qu bm sg, c.probe qu bm sg) (hadmission : ∀ qu bm sg, c.admission qu bm sg)
  (hensure : ∀ qu bm q position, c.ensure qu bm q position)
  (hbatch : ∀ qu bm prefill decode, c.batch qu bm prefill decode)

include hprobe hadmission hensure hbatch

lemma step_of_forall (s : EngineState ε) (now : ℚ) : c.Step S s now := by
  refine ⟨schedule_of_forall hprobe hadmission _ _, ?_⟩
  split
  · trivial
  · exact fun _ => execute_of_forall hensure hbatch _ _ _ _

lemma runFrom_of_forall (s : EngineState ε) (ops : List LLMEngine.Op) : c.RunFrom S s ops := by
  induction ops generalizing s with
  | nil => trivial
  | cons op rest ih =>
    refine ⟨?_, ih _⟩
    cases op with
    | addRequest => trivial
    | cancelRequest => trivial
    | checkTimeouts => trivial
    | step now => exact step_of_forall hprobe hadmission hensure hbatch s now

end Always

lemma step_true (s : EngineState ε) (now : ℚ) : (({} : CallCondition ε)).Step S s now :=
  step_of_forall (fun _ _ _ => trivial) (fun _ _ _ => trivial) (fun _ _ _ _ => trivial) (fun _ _ _ _ => trivial) s now

lemma runFrom_true (s : EngineState ε) (ops : List LLMEngine.Op) : (({} : CallCondition ε)).RunFrom S s ops :=
  runFrom_of_forall (fun _ _ _ => trivial) (fun _ _ _ => trivial) (fun _ _ _ _ => trivial) (fun _ _ _ _ => trivial)
    s ops

theorem wellFormed_run (S : Setup ε) (ops : List LLMEngine.Op) : WellFormed S (LLMEngine.run S ops).core :=
  (WellFormed.initial S).reaches (run_refines (c := {}) (runFrom_true _ ops))

end MiniVllm
