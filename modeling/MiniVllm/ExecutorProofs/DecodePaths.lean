import MiniVllm.CacheProofs.Allocations
import MiniVllm.CacheProofs.FreeBlocks
import MiniVllm.Executor.Decode
import MiniVllm.ExecutorProofs.DecodeReady
import MiniVllm.ExecutorProofs.Transparency
import MiniVllm.Library.Lockstep

/-! The legacy `decode` and the unified path in lockstep, from every state of the engine. -/

namespace MiniVllm

open BlockManager EngineCore ModelInputBuilder FakeModelExecutor

structure DecodeState where
  seq : Sequence
  blockManager : BlockManager FakeState

section Paths

variable (config : Config) (blockHash : List ℕ → ℤ)

def legacyStep (s : DecodeState) : Except DecodeExn DecodeState :=
  match decode config (fakeSetup config blockHash).blockParams s.blockManager [s.seq] with
  | (.error err, _, _) => .error err
  | (.ok _, sequences, bm) => .ok ⟨sequences.headD s.seq, bm⟩

def unifiedStep (s : DecodeState) : Except Exn DecodeState :=
  match decodeUnified (fakeSetup config blockHash) s.blockManager s.seq with
  | (.error err, _) => .error err
  | (.ok seq, bm) => .ok ⟨seq, bm⟩

end Paths

section Unified

variable {ε : Type} {S : Setup ε}

lemma runningSeq_updateRunningSeqs (queue : RequestQueue) (f : Sequence → Sequence) (rid : RequestId) :
    (queue.updateRunningSeqs f).runningSeq rid = (queue.runningSeq rid).map f :=
  RequestQueue.runningSeq_map (fun rid => Dict.get?_mapValues _ _ rid) rid

lemma runningSeq_applyItems {sid : SeqId} {rid : RequestId} (items : List (ℕ × SeqId)) {queue : RequestQueue}
    {q : Sequence} (hid : q.seqId = sid) (hq : queue.runningSeq rid = some q) :
    (applyItems [sid] queue items).runningSeq rid =
      some (items.foldl (fun seq item => if seq.seqId = item.2 then appendToken item.1 seq else seq) q) := by
  induction items generalizing queue q with
  | nil => exact hq
  | cons item rest ih =>
    rw [applyItems, List.foldl_cons, List.foldl_cons, hid]
    by_cases hitem : item.2 = sid
    · rw [if_pos (List.mem_singleton.mpr hitem), if_pos hitem.symm]
      refine ih (by rw [appendToken_seqId, hid]) ?_
      rw [runningSeq_updateRunningSeqs, hq, Option.map_some, if_pos (hid.trans hitem.symm)]
    · rw [if_neg (fun hm => hitem (List.mem_singleton.mp hm)), if_neg (Ne.symm hitem)]
      exact ih hid hq

theorem executeStep_one {queue : RequestQueue} {rid : RequestId} {q : Sequence} (hq : queue.runningSeq rid = some q)
    (bm : BlockManager ε) :
    match decodeUnified S bm q with
    | (.error err, bm') => executeStep S queue bm [] [q] = (.error err, queue, bm')
    | (.ok q', bm') => ∃ queue' events,
        executeStep S queue bm [] [q] = (.ok (), queue', bm'.record events) ∧ queue'.runningSeq rid = some q' := by
  have hcalls : ensureCalls S.config [] [q] = [(q, decodePosition q)] := rfl
  have hempty : (([] : List Sequence).isEmpty && [q].isEmpty) = false := rfl
  rw [decodeUnified, executeStep, hempty, hcalls]
  simp only [Bool.false_eq_true, if_false, forEach]
  rcases ensureStep S bm (q, decodePosition q) with ⟨r, bm₁⟩
  cases r with
  | error err => rfl
  | ok u =>
    simp only [runBatch]
    cases build S.config bm₁ [] [q] with
    | error err => rfl
    | ok input =>
      simp only
      rcases S.executor.execute input bm₁ with ⟨r, bm₂⟩
      cases r with
      | error err => rfl
      | ok output =>
        refine ⟨_, _, rfl, ?_⟩
        have hrun := runningSeq_applyItems (output.sampledTokenIds.zip output.sampledSequenceIds) rfl hq
        simp only [advanceCursors, List.map_nil, List.not_mem_nil, if_false]
        rw [runningSeq_updateRunningSeqs]
        exact congrArg (Option.map fun q => q) hrun

end Unified

def Exn.isOom : Exn → Bool
  | .outOfMemory _ _ _ => true
  | _ => false

section Step

variable {config : Config} {blockHash : List ℕ → ℤ} {q : Sequence} {bm : BlockManager FakeState}

structure Decodable (config : Config) (q : Sequence) (bm : BlockManager FakeState) : Prop where
  balanced : bm.Balanced
  contains : bm.tables.contains q.seqId
  own : bm.OwnEntries
  stored : BlocksStored bm
  running : q.status = .running
  generated : 1 ≤ q.numGeneratedTokens
  outputs : q.numGeneratedTokens = q.outputTokenIds.length
  covered : decodePosition q ≤ (bm.getBlockTable q.seqId).length * config.blockSize

structure EnsuredDecode (config : Config) (q : Sequence) (bm : BlockManager FakeState) (p : ℕ)
    (bm' : BlockManager FakeState) : Prop where
  balanced : bm'.Balanced
  contains : bm'.tables.contains q.seqId
  own : bm'.OwnEntries
  stored : BlocksStored bm'
  block : (bm'.getBlockTable q.seqId)[decodePosition q / config.blockSize]? = some p
  table : bm.getBlockTable q.seqId <+: bm'.getBlockTable q.seqId
  kept : ∀ r ∈ bm.getBlockTable q.seqId, bm'.allocator.listener.kvCache.get? r = bm.allocator.listener.kvCache.get? r
  grown : bm' = bm ∨ decodePosition q = (bm.getBlockTable q.seqId).length * config.blockSize ∧
    bm.allocator.numFreeBlocks ≠ 0

lemma Decodable.next (h : Decodable config q bm) :
    decodePosition q / config.blockSize ≤ (bm.getBlockTable q.seqId).length :=
  Nat.div_le_of_le_mul (by rw [Nat.mul_comm]; exact h.covered)

variable (blockHash) in
lemma Decodable.ensure (h : Decodable config q bm) (hoff : config.enablePrefixCaching = false) :
    (∃ err : Exn, err.isOom = true ∧ bm.allocator.numFreeBlocks = 0 ∧
      bm.ensureBlock (fakeSetup config blockHash).blockParams q (decodePosition q) = (.error err, bm)) ∨
    ∃ p bm', bm.ensureBlock (fakeSetup config blockHash).blockParams q (decodePosition q) = (.ok (some p), bm') ∧
      EnsuredDecode config q bm p bm' := by
  have hspec := ensureBlock_spec (fakeSetup config blockHash).blockParams h.balanced h.contains h.next
  have hown := h.own.ensureBlock (P := (fakeSetup config blockHash).blockParams) hoff q (decodePosition q)
  rcases hens : bm.ensureBlock (fakeSetup config blockHash).blockParams q (decodePosition q) with ⟨r, bm'⟩
  rw [hens] at hspec hown
  simp only at hspec hown
  have hnone := promptHash_off (P := (fakeSetup config blockHash).blockParams) hoff bm q (decodePosition q)
    (decodePosition q / config.blockSize)
  cases hspec with
  | covered hlt =>
    refine Or.inr ⟨_, bm, rfl, h.balanced, h.contains, h.own, h.stored, ?_, List.prefix_rfl, fun _ _ => rfl,
      Or.inl rfl⟩
    exact List.getElem?_eq_getElem hlt
  | hit hash p _ hlen hhash => cases hnone.symm.trans hhash
  | outOfMemory hlen hmiss hfull =>
    exact Or.inl ⟨_, rfl, BlockAllocator.numFreeBlocks_eq_zero h.balanced.valid hfull, rfl⟩
  | miss p _ hlen hmiss ht =>
    have htable := ht.table q.seqId
    rw [if_pos rfl] at htable
    have hlen' : decodePosition q / config.blockSize = (bm.getBlockTable q.seqId).length := hlen
    refine Or.inr ⟨p, bm', rfl, ht.balanced, (ht.contains q.seqId).trans h.contains, hown, h.stored.takes rfl ht,
      ?_, ?_, fun r hr => ?_, Or.inr ?_⟩
    · rw [htable, hlen', List.getElem?_concat_length]
    · rw [htable]
      exact List.prefix_append _ _
    · have hne : r ≠ p := by
        rintro rfl
        exact h.balanced.not_mem_of_isFree ht.wasFree _ hr
      have hlis : bm'.allocator.listener = prepareBlock bm.allocator.listener p := ht.listener
      rw [hlis, prepareBlock, Dict.get?_set_ne _ _ hne]
    · refine ⟨le_antisymm h.covered ?_, ?_⟩
      · rw [← hlen']
        exact Nat.div_mul_le_self _ _
      · have hpos := List.length_pos_of_mem (BlockAllocator.mem_dumpFreeList.mpr ht.wasFree)
        rw [BlockAllocator.length_dumpFreeList] at hpos
        exact hpos.ne'

lemma readFromKv_eq (h : Decodable config q bm) (hne : bm.getBlockTable q.seqId ≠ []) {position : ℤ}
    (hlow : -1 ≤ position) (hp : position / config.blockSize < ((bm.getBlockTable q.seqId).length : ℤ)) :
    readFromKv config (fakeSetup config blockHash).blockParams bm q position =
      (.ok (biasOf config (bm.getBlockTable q.seqId) bm.allocator.listener position), bm) := by
  obtain ⟨pid, -, hpid⟩ := pyIndex_position hlow hne hp
  have hat : bm.ensureBlockAt (fakeSetup config blockHash).blockParams q position = (.ok (some pid), bm) := by
    cases position with
    | ofNat n =>
      have hlt : n / config.blockSize < (bm.getBlockTable q.seqId).length := by
        have hcast : ((n / config.blockSize : ℕ) : ℤ) < (bm.getBlockTable q.seqId).length := by
          rw [Int.natCast_ediv]
          exact hp
        exact_mod_cast hcast
      have hidx := pyIndex_natCast (List.getElem?_eq_getElem hlt)
      rw [Int.natCast_ediv] at hidx
      obtain rfl := Except.ok.inj (hpid.symm.trans hidx)
      exact ensureBlock_covered (fakeSetup config blockHash).blockParams h.contains hlt
    | negSucc n =>
      have hb : (fakeSetup config blockHash).blockParams.blockSize = config.blockSize := rfl
      simp only [ensureBlockAt, bm.withTable_of_contains h.contains, hb, hpid]
  simp only [readFromKv, hat, biasOf, hpid, Option.bind_some, block]

def Sequence.extend (q : Sequence) (token : ℕ) : Sequence :=
  { q with outputTokenIds := q.outputTokenIds ++ [token], numGeneratedTokens := q.numGeneratedTokens + 1 }

def decodedToken (config : Config) (q : Sequence) (bm : BlockManager FakeState) : ℕ :=
  (q.outputTokenIds.getLast?.getD 42 + 7 +
    biasOf config (bm.getBlockTable q.seqId) bm.allocator.listener ((decodePosition q : ℤ) - 1)) % config.vocabSize

def written (config : Config) (bm : BlockManager FakeState) (p token : ℕ) : BlockManager FakeState :=
  bm.withListener (writeTokens bm.allocator.listener config p token)

lemma Decodable.read_lt (h : Decodable config q bm) :
    ((decodePosition q : ℤ) - 1) / config.blockSize < ((bm.getBlockTable q.seqId).length : ℤ) := by
  have hbs : (0 : ℤ) < config.blockSize := by exact_mod_cast config.blockSize_pos
  have hcov : (decodePosition q : ℤ) ≤ (bm.getBlockTable q.seqId).length * config.blockSize := by
    exact_mod_cast h.covered
  apply Int.ediv_lt_of_lt_mul hbs
  omega

lemma decodeSeq_eq (h : Decodable config q bm) (hne : bm.getBlockTable q.seqId ≠ []) :
    decodeSeq config (fakeSetup config blockHash).blockParams bm q =
      match writeToKv config (fakeSetup config blockHash).blockParams bm q (decodePosition q)
        (decodedToken config q bm) with
      | (.error err, bm') => (.error err, bm')
      | (.ok _, bm') => (.ok (q.extend (decodedToken config q bm)), bm') := by
  have hgen := h.generated
  have hpos : (q.promptTokenIds.length : ℤ) + q.numGeneratedTokens - 2 = (decodePosition q : ℤ) - 1 := by
    rw [decodePosition]
    omega
  obtain ⟨prev, hprev⟩ := Option.isSome_iff_exists.mp (List.getLast?_isSome.mpr
    (List.ne_nil_of_length_pos (h.outputs ▸ hgen)))
  have htoken : FakeModel.decodeToken config.vocabSize prev
      (biasOf config (bm.getBlockTable q.seqId) bm.allocator.listener ((decodePosition q : ℤ) - 1)) =
        decodedToken config q bm := by
    rw [decodedToken, hprev]
    rfl
  rw [decodeSeq, hpos, readFromKv_eq h hne (by omega) h.read_lt]
  simp only [hprev, htoken]
  rcases writeToKv config (fakeSetup config blockHash).blockParams bm q (decodePosition q) (decodedToken config q bm)
    with ⟨r, bm'⟩
  cases r <;> rfl

lemma legacyStep_error (h : Decodable config q bm) (hne : bm.getBlockTable q.seqId ≠ []) {err : Exn}
    (hens : bm.ensureBlock (fakeSetup config blockHash).blockParams q (decodePosition q) = (.error err, bm)) :
    legacyStep config blockHash ⟨q, bm⟩ = .error (.raised err) := by
  have hw : writeToKv config (fakeSetup config blockHash).blockParams bm q (decodePosition q)
      (decodedToken config q bm) = (.error (.raised err), bm) := by
    simp only [writeToKv, h.own.isBlockShared, Bool.false_eq_true, if_false, hens]
  simp only [legacyStep, decode, decodeSeq_eq h hne, hw]

lemma legacyStep_ok (h : Decodable config q bm) (hne : bm.getBlockTable q.seqId ≠ []) {p : ℕ}
    {bm' : BlockManager FakeState}
    (hens : bm.ensureBlock (fakeSetup config blockHash).blockParams q (decodePosition q) = (.ok (some p), bm'))
    (he : EnsuredDecode config q bm p bm') :
    legacyStep config blockHash ⟨q, bm⟩ =
      .ok ⟨q.extend (decodedToken config q bm), written config bm' p (decodedToken config q bm)⟩ := by
  have hmem : p ∈ bm'.getBlockTable q.seqId := List.mem_of_getElem? he.block
  have hw : writeToKv config (fakeSetup config blockHash).blockParams bm q (decodePosition q)
      (decodedToken config q bm) = (.ok (), written config bm' p (decodedToken config q bm)) := by
    simp only [writeToKv, h.own.isBlockShared, Bool.false_eq_true, if_false, hens,
      he.stored q.seqId p hmem, if_true]
    rfl
  simp only [legacyStep, decode, decodeSeq_eq h hne, hw, List.headD_cons]

variable (config bm) in
lemma build_one (hgen : 1 ≤ q.numGeneratedTokens) (hout : q.numGeneratedTokens = q.outputTokenIds.length)
    (hlt : decodePosition q / config.blockSize < (bm.getBlockTable q.seqId).length) :
    build config bm [] [q] = .ok (batchInput config bm [] [q]) := by
  have hmeta := collectDecodeMetadata_eq [q] (fun q' hq' => by
    obtain rfl := List.mem_singleton.mp hq'
    exact ⟨hgen, hout⟩)
  simp only [build, hmeta]
  refine assemble_eq config bm _ _ (fun m hm => by cases hm) (fun m hm => ?_) fun m hm => ?_
  · obtain rfl := List.mem_singleton.mp hm
    exact hlt
  · obtain rfl := List.mem_singleton.mp hm
    exact List.ne_nil_of_length_pos (hout ▸ hgen)

def withLast (sim : Dict SeqId (Option ℕ)) (x : FakeState) : FakeState := { x with simState := sim }

def decodeEntryOf (q : Sequence) : SequenceExecutionInfo where
  sequenceId := q.seqId
  phase := .decode
  queryStart := decodePosition q
  queryLen := 1
  cachedLenBefore := decodePosition q
  kvLenAfter := decodePosition q + 1
  sampleOutputIndex := some 0

variable (config bm) in
lemma execute_one {p : ℕ} (ht : bm.tables.contains q.seqId)
    (hp : (bm.getBlockTable q.seqId)[decodePosition q / config.blockSize]? = some p) :
    ∃ sim, execute config (batchInput config bm [] [q]) bm =
      (.ok ⟨[nextToken config (bm.getBlockTable q.seqId) bm.allocator.listener q.seqId (decodePosition q)], [q.seqId]⟩,
        (written config bm p
          (nextToken config (bm.getBlockTable q.seqId) bm.allocator.listener q.seqId (decodePosition q))).mapListener
            (withLast sim)) ∧
      ∀ x, lastOf (withLast sim x) q.seqId =
        some (nextToken config (bm.getBlockTable q.seqId) bm.allocator.listener q.seqId (decodePosition q)) := by
  have hlt : (decodeEntryOf q).cachedLenBefore / config.blockSize <
    (bm.getBlockTable (decodeEntryOf q).sequenceId).length := (List.getElem?_eq_some_iff.mp hp).1
  have hinfo : (batchInput config bm [] [q]).sequenceInfo = [decodeEntryOf q] := rfl
  have hphase : executeInfo config { blockManager := bm } (decodeEntryOf q) =
    executeDecode config { blockManager := bm } (decodeEntryOf q) := rfl
  have ht' : bm.tables.contains (decodeEntryOf q).sequenceId := ht
  have hd := executeDecode_eq ht' { blockManager := bm } bm.allocator.listener rfl hlt
  have hgetD : (bm.getBlockTable q.seqId).getD (decodePosition q / config.blockSize) 0 = p := by
    rw [List.getD_eq_getElem?_getD, hp, Option.getD_some]
  generalize htok : nextToken config (bm.getBlockTable q.seqId) bm.allocator.listener q.seqId (decodePosition q) = token
  refine ⟨(bm.allocator.listener.simState.set q.seqId (lastOf bm.allocator.listener q.seqId)).set q.seqId (some token),
    ?_, fun x => ?_⟩
  · simp only [execute, hinfo, forEach, hphase, hd]
    simp only [decodeEntryOf, writeAt, hgetD, htok]
    rfl
  · simp only [withLast, lastOf, Dict.get?_set_self, Option.getD_some]

lemma receiveOutput_one (token : ℕ) (hs : q.status = .running) :
    receiveOutput ⟨[token], [q.seqId]⟩ q = q.extend token := by
  simp [receiveOutput, appendToken, hs, Sequence.extend]

section Unified

variable (sim : Dict SeqId (Option ℕ))

lemma ensureBlock_withLast (position : ℕ) :
    (bm.mapListener (withLast sim)).ensureBlock (fakeSetup config blockHash).blockParams q position =
      ((bm.ensureBlock (fakeSetup config blockHash).blockParams q position).1,
        (bm.ensureBlock (fakeSetup config blockHash).blockParams q position).2.mapListener (withLast sim)) :=
  bm.ensureBlock_mapListener (fun _ _ => rfl) q position

lemma unifiedStep_error {err : Exn}
    (hens : bm.ensureBlock (fakeSetup config blockHash).blockParams q (decodePosition q) = (.error err, bm)) :
    unifiedStep config blockHash ⟨q, bm.mapListener (withLast sim)⟩ = .error err := by
  simp only [unifiedStep, decodeUnified, ensureStep, ensureBlock_withLast, hens]

def EndsWith (sim : Dict SeqId (Option ℕ)) (sid : SeqId) (token : Option ℕ) : Prop :=
  ∀ x, lastOf (withLast sim x) sid = token

lemma unifiedStep_ok (h : Decodable config q bm) {p : ℕ} {bm' : BlockManager FakeState}
    (hens : bm.ensureBlock (fakeSetup config blockHash).blockParams q (decodePosition q) = (.ok (some p), bm'))
    (he : EnsuredDecode config q bm p bm') {token : ℕ}
    (htok : nextToken config (bm'.getBlockTable q.seqId) (withLast sim bm'.allocator.listener) q.seqId
      (decodePosition q) = token) :
    ∃ sim', EndsWith sim' q.seqId (some token) ∧ unifiedStep config blockHash ⟨q, bm.mapListener (withLast sim)⟩ =
      .ok ⟨q.extend token, (written config bm' p token).mapListener (withLast sim')⟩ := by
  have hlt := (List.getElem?_eq_some_iff.mp he.block).1
  have hbuild := build_one config (bm'.mapListener (withLast sim)) h.generated h.outputs hlt
  obtain ⟨sim', hexec, hlast⟩ := execute_one config (bm'.mapListener (withLast sim)) he.contains he.block
  have htok' : nextToken config ((bm'.mapListener (withLast sim)).getBlockTable q.seqId)
    (bm'.mapListener (withLast sim)).allocator.listener q.seqId (decodePosition q) = token := htok
  rw [htok'] at hexec hlast
  refine ⟨sim', hlast, ?_⟩
  have hb : build (fakeSetup config blockHash).config (bm'.mapListener (withLast sim)) [] [q] =
    .ok (batchInput config (bm'.mapListener (withLast sim)) [] [q]) := hbuild
  have hx : (fakeSetup config blockHash).executor.execute (batchInput config (bm'.mapListener (withLast sim)) [] [q])
    (bm'.mapListener (withLast sim)) = _ := hexec
  simp only [unifiedStep, decodeUnified, ensureStep, ensureBlock_withLast, hens, hb, hx,
    receiveOutput_one token h.running]
  rfl

end Unified

lemma EnsuredDecode.biasOf_eq (h : Decodable config q bm) (hne : bm.getBlockTable q.seqId ≠ []) {p : ℕ}
    {bm' : BlockManager FakeState} (he : EnsuredDecode config q bm p bm') :
    biasOf config (bm'.getBlockTable q.seqId) bm'.allocator.listener ((decodePosition q : ℤ) - 1) =
      biasOf config (bm.getBlockTable q.seqId) bm.allocator.listener ((decodePosition q : ℤ) - 1) := by
  rcases he.grown with rfl | ⟨hpos, -⟩
  · rfl
  · have hlen := List.length_pos_of_ne_nil hne
    have hstart : 0 < decodePosition q := by
      rw [hpos]
      exact Nat.mul_pos hlen config.blockSize_pos
    have hread : (decodePosition q - 1) / config.blockSize < (bm.getBlockTable q.seqId).length := by
      rw [Nat.div_lt_iff_lt_mul config.blockSize_pos]
      omega
    have hcast : ((decodePosition q : ℤ) - 1) / config.blockSize =
        (((decodePosition q - 1) / config.blockSize : ℕ) : ℤ) := by
      rw [Int.natCast_ediv]
      congr 1
      omega
    have hold := List.getElem?_eq_getElem hread
    have hnew := List.prefix_iff_getElem?.mp he.table _ hread
    have hkept := he.kept _ (List.mem_of_getElem? hold)
    simp only [biasOf, hcast, pyIndex_natCast hold, pyIndex_natCast hnew, FakeModelExecutor.block, hkept]

lemma EnsuredDecode.token_eq (h : Decodable config q bm) (hne : bm.getBlockTable q.seqId ≠ []) {p : ℕ}
    {bm' : BlockManager FakeState} (he : EnsuredDecode config q bm p bm') {sim : Dict SeqId (Option ℕ)}
    (hsim : EndsWith sim q.seqId q.outputTokenIds.getLast?) :
    nextToken config (bm'.getBlockTable q.seqId) (withLast sim bm'.allocator.listener) q.seqId (decodePosition q) =
      decodedToken config q bm := by
  have hbias : biasOf config (bm'.getBlockTable q.seqId) (withLast sim bm'.allocator.listener)
    ((decodePosition q : ℤ) - 1) = _ := he.biasOf_eq h hne
  rw [nextToken, hsim, hbias, decodedToken]

lemma EnsuredDecode.decodable (h : Decodable config q bm) {p : ℕ} {bm' : BlockManager FakeState}
    (he : EnsuredDecode config q bm p bm') (token : ℕ) :
    Decodable config (q.extend token) (written config bm' p token) where
  balanced := Balanced.withListener he.balanced _
  contains := he.contains
  own := he.own.of_tables rfl
  stored := by
    intro sid r hr
    have hs := he.stored sid r hr
    simp [written, writeTokens, Dict.contains_set, hs]
  running := h.running
  generated := Nat.le_add_left 1 _
  outputs := by
    have hout := h.outputs
    simp only [Sequence.extend, List.length_append, List.length_singleton]
    omega
  covered := by
    have hlt := (List.getElem?_eq_some_iff.mp he.block).1
    have hgen := h.generated
    have hpos : decodePosition (q.extend token) = decodePosition q + 1 := by
      simp only [decodePosition, Sequence.extend]
      omega
    rw [hpos]
    exact (Nat.div_lt_iff_lt_mul config.blockSize_pos).mp hlt

lemma EnsuredDecode.ne_nil {p : ℕ} {bm' : BlockManager FakeState} (he : EnsuredDecode config q bm p bm') :
    bm'.getBlockTable q.seqId ≠ [] := List.ne_nil_of_mem (List.mem_of_getElem? he.block)

end Step

structure SameDecoding (config : Config) (q : Sequence) (k : ℕ) (s t : DecodeState) : Prop where
  decodable : Decodable config s.seq s.blockManager
  holds : s.blockManager.getBlockTable s.seq.seqId ≠ []
  seqId : s.seq.seqId = q.seqId
  tokens : ∃ tokens : List ℕ, tokens.length = k ∧ s.seq.outputTokenIds = q.outputTokenIds ++ tokens
  unified : ∃ sim, EndsWith sim s.seq.seqId s.seq.outputTokenIds.getLast? ∧
    t = ⟨s.seq, s.blockManager.mapListener (withLast sim)⟩

section Run

variable {config : Config} {blockHash : List ℕ → ℤ} {q : Sequence}

variable (blockHash) in
theorem sameDecoding_step (hoff : config.enablePrefixCaching = false) {k : ℕ} {s t : DecodeState}
    (h : SameDecoding config q k s t) :
    Lockstep (fun err err' => err = .raised err' ∧ err'.isOom = true) (SameDecoding config q (k + 1))
      (legacyStep config blockHash s) (unifiedStep config blockHash t) := by
  obtain ⟨q', bm⟩ := s
  obtain ⟨hd, hne, hid, ⟨tokens, hlen, hout⟩, sim, hsim, rfl⟩ := h
  simp only at hd hne hid hout hsim
  rcases hd.ensure (blockHash) hoff with ⟨err, hoom, -, hens⟩ | ⟨p, bm', hens, he⟩
  · rw [legacyStep_error hd hne hens, unifiedStep_error sim hens]
    exact .failed ⟨rfl, hoom⟩
  · obtain ⟨sim', hsim', hunified⟩ := unifiedStep_ok sim hd hens he (he.token_eq hd hne hsim)
    rw [legacyStep_ok hd hne hens he, hunified]
    refine .returned ⟨he.decodable hd _, he.ne_nil, hid, ⟨tokens ++ [decodedToken config q' bm], ?_, ?_⟩, sim', ?_, rfl⟩
    · rw [List.length_append, hlen]
      rfl
    · simp only [Sequence.extend]
      rw [hout, List.append_assoc]
    · simpa only [Sequence.extend, List.getLast?_append, List.getLast?_singleton, Option.some_or] using hsim'

end Run

/-- Unless memory runs out, `k` steps of either path return, with the same `k` tokens, block table and KV. -/
def PathsAgree (config : Config) (blockHash : List ℕ → ℤ) (s : DecodeState) (k : ℕ) : Prop :=
  (∀ err, steps (legacyStep config blockHash) k s = .error (.raised err) → err.isOom = false) →
  (∀ err, steps (unifiedStep config blockHash) k s = .error err → err.isOom = false) →
  ∃ (tokens : List ℕ) (t u : DecodeState), tokens.length = k ∧
    steps (legacyStep config blockHash) k s = .ok t ∧ steps (unifiedStep config blockHash) k s = .ok u ∧
    t.seq.outputTokenIds = s.seq.outputTokenIds ++ tokens ∧ u.seq.outputTokenIds = s.seq.outputTokenIds ++ tokens ∧
    t.blockManager.getTable s.seq.seqId = u.blockManager.getTable s.seq.seqId ∧
    t.blockManager.allocator.listener.kvCache = u.blockManager.allocator.listener.kvCache

section Agreement

variable {config : Config} {blockHash : List ℕ → ℤ} {q : Sequence} {bm : BlockManager FakeState}
  (hoff : config.enablePrefixCaching = false) (h : Decodable config q bm)
  (hlast : lastOf bm.allocator.listener q.seqId = q.outputTokenIds.getLast?)

include hoff h

include hlast in
theorem pathsAgree_of_block (hne : bm.getBlockTable q.seqId ≠ []) (k : ℕ) :
    PathsAgree config blockHash ⟨q, bm⟩ k := by
  intro hlegacy hunified
  have hstart : SameDecoding config q 0 ⟨q, bm⟩ ⟨q, bm⟩ :=
    ⟨h, hne, rfl, ⟨[], rfl, (List.append_nil _).symm⟩, bm.allocator.listener.simState, fun _ => hlast, rfl⟩
  have hrun := lockstep_steps hstart (fun k s t => sameDecoding_step blockHash hoff) k
  generalize hl : steps (legacyStep config blockHash) k ⟨q, bm⟩ = r at hrun hlegacy ⊢
  generalize hu : steps (unifiedStep config blockHash) k ⟨q, bm⟩ = r' at hrun hunified ⊢
  cases hrun with
  | failed herr =>
    obtain ⟨rfl, hoom⟩ := herr
    cases (hlegacy _ rfl).symm.trans hoom
  | @returned t u hsame =>
    obtain ⟨tokens, hlen, hout⟩ := hsame.tokens
    obtain ⟨sim, -, rfl⟩ := hsame.unified
    exact ⟨tokens, t, _, hlen, rfl, rfl, hout, hout, rfl, rfl⟩

lemma pathsAgree_of_full (hfull : bm.allocator.numFreeBlocks = 0) (hnil : bm.getBlockTable q.seqId = []) (k : ℕ) :
    PathsAgree config blockHash ⟨q, bm⟩ k := by
  cases k with
  | zero =>
    have hnone : q.outputTokenIds = q.outputTokenIds ++ [] := (List.append_nil _).symm
    exact fun _ _ => ⟨[], ⟨q, bm⟩, ⟨q, bm⟩, rfl, rfl, rfl, hnone, hnone, rfl, rfl⟩
  | succ k =>
    intro _ hunified
    rcases h.ensure blockHash hoff with ⟨err, hoom, -, hens⟩ | ⟨p, bm', -, he⟩
    · have hstep := steps_error (unifiedStep_error bm.allocator.listener.simState hens) k
      cases (hunified err hstep).symm.trans hoom
    · rcases he.grown with rfl | ⟨-, hfree⟩
      · exact absurd hnil he.ne_nil
      · exact absurd hfull hfree

omit hoff in
variable (blockHash) in
lemma legacyStep_nil (hnil : bm.getBlockTable q.seqId = []) :
    legacyStep config blockHash ⟨q, bm⟩ = .error (.raised .indexError) := by
  have hgen := h.generated
  have hcov := h.covered
  rw [hnil, List.length_nil, Nat.zero_mul, decodePosition] at hcov
  have hpos : (q.promptTokenIds.length : ℤ) + q.numGeneratedTokens - 2 = Int.negSucc 0 := by omega
  have hread : readFromKv config (fakeSetup config blockHash).blockParams bm q (Int.negSucc 0) =
      (.error (.raised .indexError), bm) := by
    have hidx : ∀ i, pyIndex ([] : List ℕ) i = .error .indexError := by
      intro i
      simp [pyIndex]
    simp only [readFromKv, ensureBlockAt, bm.withTable_of_contains h.contains, hnil, hidx]
  simp only [legacyStep, decode, decodeSeq, hpos, hread]

lemma not_pathsAgree_of_free (hnil : bm.getBlockTable q.seqId = []) (hfree : bm.allocator.numFreeBlocks ≠ 0) :
    ¬ PathsAgree config blockHash ⟨q, bm⟩ 1 := by
  intro hagree
  have hlegacy := legacyStep_nil blockHash h hnil
  have hunified : ∃ t, unifiedStep config blockHash ⟨q, bm⟩ = .ok t := by
    rcases h.ensure blockHash hoff with ⟨err, -, hfull, -⟩ | ⟨p, bm', hens, he⟩
    · exact absurd hfull hfree
    · obtain ⟨sim', -, hok⟩ := unifiedStep_ok bm.allocator.listener.simState h hens he rfl
      exact ⟨_, hok⟩
  obtain ⟨t, ht⟩ := hunified
  obtain ⟨tokens, u, -, -, hu, -⟩ := hagree
    (fun err he => by
      rw [steps_one, hlegacy] at he
      cases he
      rfl)
    (fun err he => by
      rw [steps_one, ht] at he
      cases he)
  rw [steps_one, hlegacy] at hu
  cases hu

end Agreement

section Engine

variable {config : Config} (blockHash : List ℕ → ℤ) (ops : List LLMEngine.Op)

lemma running_of_getById {queue : RequestQueue} {n : ℕ} (hqf : QueueFormed queue n) {rid : RequestId}
    {sg : SequenceGroup} (hsg : queue.getById rid = some sg) {q : Sequence} (hq : q ∈ sg.seqs)
    (hs : q.status = .running) : queue.runningSeq q.seqId.request = some q := by
  rcases getById_cases queue rid with ⟨hnone, -⟩ | ⟨sg', hsg', h⟩
  · cases hnone.symm.trans hsg
  obtain rfl := Option.some.inj (hsg'.symm.trans hsg)
  rcases h with h | ⟨-, h⟩ | ⟨-, -, h⟩ | ⟨-, -, -, h⟩
  · rw [(hqf.waiting rid sg' h).2.2] at hq
    cases hq
  · obtain ⟨hid, -, q', hseqs, -⟩ := hqf.running rid sg' h
    rw [hseqs] at hq
    obtain rfl := List.mem_singleton.mp hq
    have hlive : queue.runningSeq rid = some q := hqf.runningSeq_eq_some.mpr ⟨sg', h, hseqs⟩
    have hrid := congrArg SeqId.request (hqf.runningSeq_seqId hlive)
    rwa [hrid]
  · have hfin := (hqf.finished rid sg' h).2.2 q hq
    simp [Sequence.finished, hs] at hfin
  · rw [(hqf.rejected rid sg' h).2.2] at hq
    cases hq

variable (hoff : config.enablePrefixCaching = false)

include hoff

lemma ownEntries_run : (LLMEngine.run (fakeSetup config blockHash) ops).blockManager.OwnEntries := by
  refine run_invariant (I := fun s => s.blockManager.OwnEntries) ?_
    (fun s s' hw h ht => ownEntries_step hoff hw h ht) (run_refines (c := {}) (runFrom_true _ ops))
  intro sid e he
  cases he

lemma blocksStored_run : BlocksStored (LLMEngine.run (fakeSetup config blockHash) ops).blockManager := by
  refine run_invariant (I := fun s => BlocksStored s.blockManager) ?_
    (fun s s' hw h ht => blocksStored_step hw h hoff ht) (run_refines (c := {}) (runFrom_true _ ops))
  intro sid p hp
  cases hp

omit hoff in
lemma lastTokens_run : LastTokens (LLMEngine.run (fakeSetup config blockHash) ops).core := by
  refine run_invariant (I := LastTokens) ?_ (fun s s' hw h ht => lastTokens_step hw h ht)
    (run_refines (c := {}) (runFrom_true _ ops))
  intro rid q hq
  cases hq

theorem decodable_run {q : Sequence}
    (hq : (LLMEngine.run (fakeSetup config blockHash) ops).queue.runningSeq q.seqId.request = some q)
    (hs : q.status = .running) :
    Decodable config q (LLMEngine.run (fakeSetup config blockHash) ops).blockManager := by
  have hw := wellFormed_run (fakeSetup config blockHash) ops
  obtain ⟨-, hgen, hout⟩ := (hw.queue.runningSeq_phase hq).decode hs
  refine ⟨hw.balanced, hw.contains hq, ownEntries_run blockHash ops hoff, blocksStored_run blockHash ops hoff, hs, hgen,
    hout, ?_⟩
  rw [← LivePhase.kvLen_running hs]
  exact hw.covered _ q hq

theorem decodePaths_agree_iff {rid : RequestId} {sg : SequenceGroup} {q : Sequence}
    (hsg : (LLMEngine.run (fakeSetup config blockHash) ops).queue.getById rid = some sg) (hq : q ∈ sg.seqs)
    (hs : q.status = .running) :
    (∀ k, PathsAgree config blockHash ⟨q, (LLMEngine.run (fakeSetup config blockHash) ops).blockManager⟩ k) ↔
      (LLMEngine.run (fakeSetup config blockHash) ops).blockManager.getBlockTable q.seqId ≠ [] ∨
        (LLMEngine.run (fakeSetup config blockHash) ops).blockManager.allocator.numFreeBlocks = 0 := by
  have hlive := running_of_getById (wellFormed_run (fakeSetup config blockHash) ops).queue hsg hq hs
  have hd := decodable_run blockHash ops hoff hlive hs
  have hlast := lastTokens_run blockHash ops _ q hlive hs
  constructor
  · intro hagree
    by_contra hcon
    rw [not_or, not_not] at hcon
    exact not_pathsAgree_of_free hoff hd hcon.1 hcon.2 (hagree 1)
  · intro h k
    by_cases hnil : (LLMEngine.run (fakeSetup config blockHash) ops).blockManager.getBlockTable q.seqId = []
    · exact pathsAgree_of_full hoff hd (h.resolve_left (not_not.mpr hnil)) hnil k
    · exact pathsAgree_of_block hoff hd hlast hnil k

def uncached : Config := Config.default.withPrefixCaching false

def besideEmpty : List LLMEngine.Op := [.addRequest ['a', 'b', 'c'] 5 0, .addRequest [] 5 0, .step 0]

def runningSequence (rid : RequestId) (prompt : List ℕ) : Sequence where
  seqId := ⟨rid, 0⟩
  groupId := rid
  promptTokenIds := prompt
  samplingParams := ⟨5⟩
  outputTokenIds := [7]
  status := .running
  numGeneratedTokens := 1
  prefillCursor := prompt.length

def runningGroup (rid : RequestId) (prompt : List ℕ) : SequenceGroup where
  requestId := rid
  samplingParams := ⟨5⟩
  promptTokenIds := prompt
  arrivalTime := 0
  seqs := [runningSequence rid prompt]

omit hoff in
theorem decodePaths_agree_after_prefill :
    (LLMEngine.run (fakeSetup uncached codeHash) besideEmpty).blockManager.getBlockTable ⟨0, 0⟩ = [0] ∧
    ∀ k, PathsAgree uncached codeHash ⟨runningSequence 0 [97, 98, 99],
      (LLMEngine.run (fakeSetup uncached codeHash) besideEmpty).blockManager⟩ k := by
  have hgroup : (LLMEngine.run (fakeSetup uncached codeHash) besideEmpty).queue.getById 0 =
      some (runningGroup 0 [97, 98, 99]) := by decide +kernel
  refine ⟨by decide +kernel,
    (decodePaths_agree_iff codeHash besideEmpty rfl hgroup (List.mem_singleton_self _) rfl).mpr (Or.inl ?_)⟩
  decide +kernel

omit hoff in
theorem legacy_decode_raises : ¬ ∀ (config : Config) (blockHash : List ℕ → ℤ) (ops : List LLMEngine.Op)
    (rid : RequestId) (sg : SequenceGroup) (q : Sequence), config.enablePrefixCaching = false →
      (LLMEngine.run (fakeSetup config blockHash) ops).queue.getById rid = some sg → q ∈ sg.seqs →
      q.status = .running →
        ∀ k, PathsAgree config blockHash ⟨q, (LLMEngine.run (fakeSetup config blockHash) ops).blockManager⟩ k := by
  intro h
  have hagree := h uncached codeHash besideEmpty 1 (runningGroup 1 []) (runningSequence 1 []) rfl (by decide +kernel)
    (List.mem_singleton_self _) rfl 1
  have hlive : (LLMEngine.run (fakeSetup uncached codeHash) besideEmpty).queue.runningSeq
      (runningSequence 1 []).seqId.request = some (runningSequence 1 []) := by decide +kernel
  have hd := decodable_run codeHash besideEmpty rfl hlive rfl
  exact not_pathsAgree_of_free rfl hd (by decide +kernel) (by decide +kernel) hagree

theorem holds_block {q : Sequence}
    (hq : (LLMEngine.run (fakeSetup config blockHash) ops).queue.runningSeq q.seqId.request = some q)
    (hs : q.status = .running) (h : q.promptTokenIds ≠ [] ∨ 2 ≤ q.numGeneratedTokens) :
    (LLMEngine.run (fakeSetup config blockHash) ops).blockManager.getBlockTable q.seqId ≠ [] := by
  have hd := decodable_run blockHash ops hoff hq hs
  intro hnil
  have hcov := hd.covered
  have hgen := hd.generated
  rw [hnil, List.length_nil, Nat.zero_mul, decodePosition] at hcov
  rcases h with h | h
  · have hpos := List.length_pos_of_ne_nil h
    omega
  · omega

end Engine

end MiniVllm
