import MiniVllm.Executor.Fake

/-! `FakeModelExecutor.execute` on covered tables: it changes only its own state. -/

namespace MiniVllm

namespace FakeModelExecutor

variable (config : Config)

def block (x : FakeState) (pid : ℕ) : List ℕ := (x.kvCache.get? pid).getD []

def writeAt (table : List ℕ) (x : FakeState) (position tokenId : ℕ) : FakeState :=
  writeTokens x config (table.getD (position / config.blockSize) 0) tokenId

def writePrompts (table : List ℕ) (x : FakeState) (positions : List ℕ) : FakeState :=
  positions.foldl (fun x position => writeAt config table x position (position % config.vocabSize)) x

def setLast (x : FakeState) (sid : SeqId) (token : Option ℕ) : FakeState :=
  { x with simState := x.simState.set sid token }

def lastOf (x : FakeState) (sid : SeqId) : Option ℕ := (x.simState.get? sid).getD none

section Writes

variable {config} {bm : BlockManager FakeState} {sid : SeqId} (ht : bm.tables.contains sid)

include ht

lemma simulateKvWrite_eq (x : FakeState) {position : ℕ} (tokenId : ℕ)
    (hp : position / config.blockSize < (bm.getBlockTable sid).length) :
    simulateKvWrite config (bm.withListener x) sid position tokenId =
      (.ok (), bm.withListener (writeAt config (bm.getBlockTable sid) x position tokenId)) := by
  have h := (bm.withListener x).ensureBlockByIds_covered callbacks config.blockSize
    ht hp
  have hg : (bm.getBlockTable sid).getD (position / config.blockSize) 0 =
      (bm.getBlockTable sid)[position / config.blockSize] := by
    simp [List.getD_eq_getElem?_getD, List.getElem?_eq_getElem hp]
  simp only [simulateKvWrite, h, BlockManager.withListener_listener, BlockManager.withListener_withListener,
    BlockManager.withListener_getBlockTable, writeAt, hg]

lemma writePrompts_eq (positions : List ℕ) (l : ExecuteLoop) (x : FakeState)
    (hl : l.blockManager = bm.withListener x)
    (hp : ∀ position ∈ positions, position / config.blockSize < (bm.getBlockTable sid).length) :
    forEach (writePrompt config sid) l positions =
      (.ok (), { l with
        pos := if positions = [] then l.pos else positions.getLast?
        blockManager := bm.withListener (writePrompts config (bm.getBlockTable sid) x positions) }) := by
  induction positions generalizing l x with
  | nil =>
    simp only [forEach_nil, if_true, writePrompts, List.foldl_nil, ← hl]
  | cons position rest ih =>
    have hw := simulateKvWrite_eq ht x (position % config.vocabSize) (hp position (by simp))
    have hstep : writePrompt config sid l position = (.ok (), { l with
        pos := some position
        blockManager := bm.withListener (writeAt config (bm.getBlockTable sid) x position
          (position % config.vocabSize)) }) := by
      simp only [writePrompt, hl, hw]
    have hrest := ih { l with
      pos := some position
      blockManager := bm.withListener (writeAt config (bm.getBlockTable sid) x position
        (position % config.vocabSize)) } _ rfl (fun p hm => hp p (List.mem_cons_of_mem position hm))
    simp only [forEach, hstep, hrest, writePrompts, List.foldl_cons, reduceCtorEq, if_false]
    cases rest with
    | nil => rfl
    | cons p more => simp

end Writes

def chunkPositions (info : SequenceExecutionInfo) : List ℕ :=
  (List.range info.queryLen).map (info.queryStart + ·)

def firstToken (position : ℕ) : ℕ := (position * 3 + 1) % config.vocabSize

def posAfter (pos : Option ℕ) (info : SequenceExecutionInfo) : Option ℕ :=
  if chunkPositions info = [] then pos else (chunkPositions info).getLast?

section Infos

variable {config} {bm : BlockManager FakeState} {info : SequenceExecutionInfo}
  (ht : bm.tables.contains info.sequenceId) (l : ExecuteLoop) (x : FakeState)
  (hl : l.blockManager = bm.withListener x)

include ht hl

lemma executePrefill_eq
    (hp : ∀ i < info.queryLen, (info.queryStart + i) / config.blockSize <
      (bm.getBlockTable info.sequenceId).length) :
    executePrefill config l info =
      let x' := writePrompts config (bm.getBlockTable info.sequenceId) x (chunkPositions info)
      let l' := { l with pos := posAfter l.pos info, blockManager := bm.withListener x' }
      if info.sampleOutputIndex.isSome then
        match posAfter l.pos info with
        | none => (.error .unboundLocalError, l')
        | some pos => (.ok (), { l' with
            blockManager := bm.withListener (setLast x' info.sequenceId (some (firstToken config pos)))
            sampledTokenIds := l.sampledTokenIds ++ [firstToken config pos]
            sampledSequenceIds := l.sampledSequenceIds ++ [info.sequenceId] })
      else (.ok (), l') := by
  have hpos : ∀ position ∈ chunkPositions info,
      position / config.blockSize < (bm.getBlockTable info.sequenceId).length := by
    intro position hm
    obtain ⟨i, hi, rfl⟩ := List.mem_map.mp hm
    exact hp i (List.mem_range.mp hi)
  have hw := writePrompts_eq ht (chunkPositions info) l x hl hpos
  simp only [executePrefill]
  rw [show (List.range info.queryLen).map (info.queryStart + ·) = chunkPositions info from rfl, hw]
  simp only [posAfter]
  split_ifs <;> rfl

def biasOf (config : Config) (table : List ℕ) (x : FakeState) (position : ℤ) : ℕ :=
  match pyIndex table (position / config.blockSize) with
  | .ok pid => (block x pid).sum % config.vocabSize
  | .error _ => 0

omit ht hl in
lemma pyIndex_position {table : List ℕ} {position : ℤ} (hlow : -1 ≤ position) (hne : table ≠ [])
    (hp : position / config.blockSize < (table.length : ℤ)) :
    ∃ pid ∈ table, pyIndex table (position / config.blockSize) = .ok pid := by
  have hbs : (0 : ℤ) < config.blockSize := by exact_mod_cast config.blockSize_pos
  have hlow' : -1 ≤ position / config.blockSize := by
    have h := Int.ediv_le_ediv hbs hlow
    have h1 : (-1 : ℤ) / config.blockSize = -1 := by
      rw [Int.ediv_eq_iff_of_pos hbs]
      omega
    omega
  have hlen := List.length_pos_of_ne_nil hne
  simp only [pyIndex]
  by_cases h0 : 0 ≤ position / config.blockSize
  · have hlt : (position / config.blockSize).toNat < table.length := by omega
    exact ⟨_, List.getElem_mem hlt, by simp only [h0, if_true, List.getElem?_eq_getElem hlt]⟩
  · have hm : position / config.blockSize = -1 := by omega
    have hlt : table.length - 1 < table.length := by omega
    refine ⟨table[table.length - 1], List.getElem_mem hlt, ?_⟩
    have hc : - (-1 : ℤ) ≤ table.length := by omega
    have hn : ((table.length : ℤ) + -1).toNat = table.length - 1 := by omega
    rw [hm, if_neg (by decide), if_pos hc, hn, List.getElem?_eq_getElem hlt]

omit ht hl in
lemma simulateReadKvBias_eq {sid : SeqId} {position : ℤ} (hlow : -1 ≤ position)
    (hne : bm.getBlockTable sid ≠ [])
    (hp : position / config.blockSize < ((bm.getBlockTable sid).length : ℤ)) :
    simulateReadKvBias config (bm.withListener x) sid position =
      .ok (biasOf config (bm.getBlockTable sid) x position) := by
  obtain ⟨pid, -, hpid⟩ := pyIndex_position hlow hne hp
  simp only [simulateReadKvBias, BlockManager.withListener_getBlockTable, hp, if_true, hpid, biasOf,
    BlockManager.withListener_listener, block]

def nextToken (config : Config) (table : List ℕ) (x : FakeState) (sid : SeqId) (cached : ℕ) : ℕ :=
  ((lastOf x sid).getD 42 + 7 + biasOf config table x ((cached : ℤ) - 1)) % config.vocabSize

lemma executeDecode_eq
    (hp : info.cachedLenBefore / config.blockSize < (bm.getBlockTable info.sequenceId).length) :
    executeDecode config l info =
      let table := bm.getBlockTable info.sequenceId
      let token := nextToken config table x info.sequenceId info.cachedLenBefore
      let x' := writeAt config table (setLast x info.sequenceId (lastOf x info.sequenceId))
        info.cachedLenBefore token
      (.ok (), { l with
        blockManager := bm.withListener (setLast x' info.sequenceId (some token))
        sampledTokenIds := l.sampledTokenIds ++ [token]
        sampledSequenceIds := l.sampledSequenceIds ++ [info.sequenceId] }) := by
  have hne : bm.getBlockTable info.sequenceId ≠ [] := by
    intro hn
    simp [hn] at hp
  have hbs : (0 : ℤ) < config.blockSize := by exact_mod_cast config.blockSize_pos
  have hread : ((info.cachedLenBefore : ℤ) - 1) / config.blockSize <
      ((bm.getBlockTable info.sequenceId).length : ℤ) := by
    have h := Int.ediv_le_ediv hbs (show (info.cachedLenBefore : ℤ) - 1 ≤ info.cachedLenBefore by omega)
    have hp' : ((info.cachedLenBefore / config.blockSize : ℕ) : ℤ) <
        (bm.getBlockTable info.sequenceId).length := by exact_mod_cast hp
    rw [Int.natCast_ediv] at hp'
    omega
  have hb := simulateReadKvBias_eq x (by omega) hne hread
  have hlast : lastToken (bm.withListener x) info.sequenceId = lastOf x info.sequenceId := rfl
  have hset : ∀ y token, setLastToken (bm.withListener y) info.sequenceId token =
      bm.withListener (setLast y info.sequenceId token) := fun _ _ => rfl
  have hw := simulateKvWrite_eq ht (setLast x info.sequenceId (lastOf x info.sequenceId))
    (nextToken config (bm.getBlockTable info.sequenceId) x info.sequenceId info.cachedLenBefore) hp
  simp only [executeDecode, hl, hb, hlast, hset]
  simp only [nextToken] at hw ⊢
  simp only [hw, hset]

end Infos

section Laws

variable {config}

lemma executeInfo_frame {bm : BlockManager FakeState} {info : SequenceExecutionInfo} {l : ExecuteLoop}
    {x : FakeState} (hl : l.blockManager = bm.withListener x)
    (hc : Covered config.blockSize bm [info]) :
    ∃ y, (executeInfo config l info).2.blockManager = bm.withListener y := by
  obtain ⟨ht, hp, hd⟩ := hc info (by simp)
  cases hphase : info.phase with
  | prefill =>
    simp only [executeInfo, hphase, executePrefill_eq ht l x hl hp]
    split_ifs
    · cases posAfter l.pos info with
      | none => exact ⟨_, rfl⟩
      | some pos => exact ⟨_, rfl⟩
    · exact ⟨_, rfl⟩
  | decode =>
    simp only [executeInfo, hphase, executeDecode_eq ht l x hl (hd hphase)]
    exact ⟨_, rfl⟩

theorem execute_frame (input : ModelInput) (bm : BlockManager FakeState)
    (hc : Covered config.blockSize bm input.sequenceInfo) :
    ∃ x, (execute config input bm).2 = bm.withListener x := by
  have hstep : ∀ l info (rest : List SequenceExecutionInfo) r l',
      ((∃ x, l.blockManager = bm.withListener x) ∧ Covered config.blockSize bm (info :: rest)) →
      executeInfo config l info = (r, l') →
      (∃ x, l'.blockManager = bm.withListener x) ∧ Covered config.blockSize bm rest := by
    rintro l info rest r l' ⟨⟨x, hl⟩, hcov⟩ he
    refine ⟨?_, fun i hi => hcov i (List.mem_cons_of_mem info hi)⟩
    have h := executeInfo_frame hl (fun i hi => hcov i (by simpa using Or.inl (List.mem_singleton.mp hi)))
    rwa [he] at h
  obtain ⟨hok, herr⟩ := forEach_rule (P := fun _ _ => True) (s := ({ blockManager := bm } : ExecuteLoop))
    (J := fun l : ExecuteLoop => ∃ x, l.blockManager = bm.withListener x)
    (fun l info rest l' hi _ he => hstep l info rest _ l' hi he)
    (fun l info rest err l' hi _ he => (hstep l info rest _ l' hi he).1)
    ⟨⟨bm.allocator.listener, rfl⟩, hc⟩ (ForEachAll.of_forall (fun _ _ => trivial) _ _)
  simp only [execute]
  cases hloop : forEach (executeInfo config) { blockManager := bm } input.sequenceInfo with
  | mk r l =>
    cases r with
    | error err => exact herr err l hloop
    | ok u => exact (hok l hloop).1

lemma writePrompt_lists {sid : SeqId} {l l' : ExecuteLoop} {positions : List ℕ} {r : Except Exn Unit}
    (h : forEach (writePrompt config sid) l positions = (r, l')) :
    l'.sampledTokenIds = l.sampledTokenIds ∧ l'.sampledSequenceIds = l.sampledSequenceIds := by
  have hstep : ∀ l position r l', writePrompt config sid l position = (r, l') →
      l'.sampledTokenIds = l.sampledTokenIds ∧ l'.sampledSequenceIds = l.sampledSequenceIds := by
    intro l position r l' he
    simp only [writePrompt, Prod.mk.injEq] at he
    obtain ⟨-, rfl⟩ := he
    exact ⟨rfl, rfl⟩
  induction positions generalizing l with
  | nil =>
    cases h
    exact ⟨rfl, rfl⟩
  | cons position rest ih =>
    simp only [forEach] at h
    cases hw : writePrompt config sid l position with
    | mk r₁ l₁ =>
      obtain ⟨h₁, h₂⟩ := hstep l position r₁ l₁ hw
      rw [hw] at h
      cases r₁ with
      | error err =>
        cases h
        exact ⟨h₁, h₂⟩
      | ok u =>
        obtain ⟨h₃, h₄⟩ := ih h
        exact ⟨h₃.trans h₁, h₄.trans h₂⟩

lemma executeInfo_samples {info : SequenceExecutionInfo} {l l' : ExecuteLoop}
    (h : executeInfo config l info = (.ok (), l'))
    (hd : info.phase = .decode → info.sampleOutputIndex.isSome) :
    l'.sampledSequenceIds = l.sampledSequenceIds ++ sampledIds [info] ∧
      l'.sampledTokenIds.length + l.sampledSequenceIds.length =
        l.sampledTokenIds.length + l'.sampledSequenceIds.length := by
  cases hphase : info.phase with
  | prefill =>
    simp only [executeInfo, hphase, executePrefill] at h
    cases hw : forEach (writePrompt config info.sequenceId) l
        ((List.range info.queryLen).map (info.queryStart + ·)) with
    | mk r l₁ =>
      obtain ⟨h₁, h₂⟩ := writePrompt_lists hw
      simp only [hw] at h
      cases r with
      | error err => cases h
      | ok u =>
        cases hs : info.sampleOutputIndex with
        | none =>
          simp only [hs, Option.isSome_none, Bool.false_eq_true, if_false] at h
          cases h
          simp [sampledIds, hs, h₁, h₂]
        | some i =>
          simp only [hs, Option.isSome_some, if_true] at h
          cases hpos : l₁.pos with
          | none =>
            simp only [hpos] at h
            cases h
          | some pos =>
            simp only [hpos] at h
            cases h
            refine ⟨by simp [sampledIds, hs, h₂], ?_⟩
            simp only [h₁, h₂, List.length_append, List.length_singleton]
            omega
  | decode =>
    have hs := hd hphase
    simp only [executeInfo, hphase, executeDecode] at h
    cases hb : simulateReadKvBias config l.blockManager info.sequenceId ((info.cachedLenBefore : ℤ) - 1) with
    | error err =>
      simp only [hb] at h
      cases h
    | ok kvBias =>
      simp only [hb] at h
      split at h
      · cases h
      · cases h
        refine ⟨by simp [sampledIds, hs], ?_⟩
        simp only [List.length_append, List.length_singleton]
        omega

lemma execute_returns {input : ModelInput} {bm bm' : BlockManager FakeState} {output : ModelRunnerOutput}
    (h : execute config input bm = (.ok output, bm')) :
    ∃ l, forEach (executeInfo config) { blockManager := bm } input.sequenceInfo = (.ok (), l) ∧
      output = ⟨l.sampledTokenIds, l.sampledSequenceIds⟩ ∧ bm' = l.blockManager := by
  rw [execute] at h
  cases he : forEach (executeInfo config) { blockManager := bm } input.sequenceInfo with
  | mk r l =>
    rw [he] at h
    cases r with
    | error err => cases h
    | ok u =>
      cases h
      exact ⟨l, rfl, rfl, rfl⟩

theorem execute_samples (input : ModelInput) (bm : BlockManager FakeState) (output : ModelRunnerOutput)
    (h : (execute config input bm).1 = .ok output)
    (hd : ∀ info ∈ input.sequenceInfo, info.phase = .decode → info.sampleOutputIndex.isSome) :
    output.sampledSequenceIds = sampledIds input.sequenceInfo ∧
      output.sampledSequenceIds.length ≤ output.sampledTokenIds.length := by
  have hloop : ∀ (infos : List SequenceExecutionInfo) (l l' : ExecuteLoop),
      (∀ info ∈ infos, info.phase = .decode → info.sampleOutputIndex.isSome) →
      forEach (executeInfo config) l infos = (.ok (), l') →
      l'.sampledSequenceIds = l.sampledSequenceIds ++ sampledIds infos ∧
        l'.sampledTokenIds.length + l.sampledSequenceIds.length =
          l.sampledTokenIds.length + l'.sampledSequenceIds.length := by
    intro infos
    induction infos with
    | nil =>
      intro l l' _ he
      cases he
      simp [sampledIds]
    | cons info rest ih =>
      intro l l' hd he
      obtain ⟨l₁, hi, hrest⟩ := forEach_cons_ok he
      obtain ⟨h₁, h₂⟩ := executeInfo_samples hi (hd info (by simp))
      obtain ⟨h₃, h₄⟩ := ih l₁ l' (fun i hm => hd i (List.mem_cons_of_mem info hm)) hrest
      refine ⟨?_, by omega⟩
      rw [h₃, h₁, List.append_assoc]
      congr 1
      simp only [sampledIds, ← List.map_append, ← List.filter_append, List.singleton_append]
  obtain ⟨l, he, rfl, -⟩ := execute_returns (Prod.ext h rfl)
  obtain ⟨h₁, h₂⟩ := hloop _ _ _ hd he
  refine ⟨by simpa using h₁, ?_⟩
  simp only [List.length_nil] at h₂
  simp only
  omega

end Laws

end FakeModelExecutor

def fakeModelExecutor (config : Config) : Executor config FakeState where
  initial := {}
  callbacks := FakeModelExecutor.callbacks
  tokenize := FakeModelExecutor.tokenize config
  detokenize := FakeModelExecutor.detokenize
  execute := FakeModelExecutor.execute config
  cleanupSequence s _ := s
  execute_frame := FakeModelExecutor.execute_frame
  execute_samples := FakeModelExecutor.execute_samples

end MiniVllm
