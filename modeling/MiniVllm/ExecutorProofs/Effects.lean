import MiniVllm.EngineProofs.Batch
import MiniVllm.ExecutorProofs.Fake

/-! What one execution of the fake model does to a block and to a sequence. -/

namespace MiniVllm

namespace FakeModelExecutor

variable (config : Config)

def kvSum (vocabSize tokenId : ℕ) : ℕ := FakeModel.fakeKey vocabSize tokenId + FakeModel.fakeValue vocabSize tokenId

def blockTotal (x : FakeState) (p : ℕ) : ℕ := (block x p).sum

section Writes

variable (table : List ℕ) (x : FakeState) (p : ℕ)

lemma blockTotal_writeAt (r tokenId : ℕ) : blockTotal (writeAt config table x r tokenId) p =
    blockTotal x p + if table.getD (r / config.blockSize) 0 = p then kvSum config.vocabSize tokenId else 0 := by
  simp only [blockTotal, block, writeAt, writeTokens, Dict.get?_set]
  by_cases h : p = table.getD (r / config.blockSize) 0
  · rw [if_pos h, if_pos h.symm, Option.getD_some, List.sum_append, ← h]
    simp [kvSum]
  · rw [if_neg h, if_neg (Ne.symm h), Nat.add_zero]

lemma blockTotal_writePrompts (rs : List ℕ) : blockTotal (writePrompts config table x rs) p = blockTotal x p +
    ((rs.filter (fun r => table.getD (r / config.blockSize) 0 = p)).map
      (fun r => kvSum config.vocabSize (r % config.vocabSize))).sum := by
  induction rs generalizing x with
  | nil => rfl
  | cons r rest ih =>
    have hstep : writePrompts config table x (r :: rest) =
      writePrompts config table (writeAt config table x r (r % config.vocabSize)) rest := rfl
    rw [hstep, ih, blockTotal_writeAt]
    by_cases h : table.getD (r / config.blockSize) 0 = p
    · rw [if_pos h, List.filter_cons_of_pos (by simpa using h), List.map_cons, List.sum_cons, Nat.add_assoc]
    · rw [if_neg h, List.filter_cons_of_neg (by simpa using h), Nat.add_zero]

lemma lastOf_writePrompts (rs : List ℕ) (sid : SeqId) :
    lastOf (writePrompts config table x rs) sid = lastOf x sid := by
  induction rs generalizing x with
  | nil => rfl
  | cons r rest ih => exact ih (writeAt config table x r (r % config.vocabSize))

lemma lastOf_setLast (sid sid' : SeqId) (token : Option ℕ) :
    lastOf (setLast x sid token) sid' = if sid' = sid then token else lastOf x sid' := by
  simp only [lastOf, setLast, Dict.get?_set]
  split_ifs <;> rfl

end Writes

structure Agrees (obs : ℕ → Prop) (sid : SeqId) (x y : FakeState) : Prop where
  blocks : ∀ p, obs p → blockTotal y p = blockTotal x p
  last : lastOf y sid = lastOf x sid

lemma Agrees.refl (obs : ℕ → Prop) (sid : SeqId) (x : FakeState) : Agrees obs sid x x := ⟨fun _ _ => rfl, rfl⟩

lemma Agrees.trans {obs : ℕ → Prop} {sid : SeqId} {x y z : FakeState} (h : Agrees obs sid x y)
    (g : Agrees obs sid y z) : Agrees obs sid x z :=
  ⟨fun p hp => (g.blocks p hp).trans (h.blocks p hp), g.last.trans h.last⟩

structure Sampled (l : ExecuteLoop) (items : List (ℕ × SeqId)) : Prop where
  tokens : l.sampledTokenIds = items.map Prod.fst
  ids : l.sampledSequenceIds = items.map Prod.snd

inductive InfoEffect (table : List ℕ) (pos : Option ℕ) (x : FakeState) (info : SequenceExecutionInfo) :
    FakeState → List (ℕ × SeqId) → Prop
  | chunk (hphase : info.phase = .prefill) (hsample : info.sampleOutputIndex = none) :
      InfoEffect table pos x info (writePrompts config table x (chunkPositions info)) []
  | completed (hphase : info.phase = .prefill) (hsample : info.sampleOutputIndex.isSome) (r : ℕ)
      (hpos : posAfter pos info = some r) :
      InfoEffect table pos x info (setLast (writePrompts config table x (chunkPositions info)) info.sequenceId
        (some (firstToken config r))) [(firstToken config r, info.sequenceId)]
  | decode (hphase : info.phase = .decode) (token : ℕ)
      (htoken : token = nextToken config table x info.sequenceId info.cachedLenBefore) :
      InfoEffect table pos x info
        (setLast (writeAt config table (setLast x info.sequenceId (lastOf x info.sequenceId))
          info.cachedLenBefore token) info.sequenceId (some token)) [(token, info.sequenceId)]

section Loop

variable {config} {bm : BlockManager FakeState} {l l' : ExecuteLoop} {x : FakeState}
  {info : SequenceExecutionInfo} (hc : Covered config.blockSize bm [info])
  (hl : l.blockManager = bm.withListener x)

include hc hl

theorem executeInfo_effect {items : List (ℕ × SeqId)} (hs : Sampled l items)
    (h : executeInfo config l info = (.ok (), l')) :
    ∃ y more, InfoEffect config (bm.getBlockTable info.sequenceId) l.pos x info y more ∧
      l'.blockManager = bm.withListener y ∧ Sampled l' (items ++ more) := by
  obtain ⟨ht, hp, hd⟩ := hc info (by simp)
  have hsnoc : ∀ {l'' : ExecuteLoop} {token : ℕ}, l''.sampledTokenIds = l.sampledTokenIds ++ [token] →
      l''.sampledSequenceIds = l.sampledSequenceIds ++ [info.sequenceId] →
      Sampled l'' (items ++ [(token, info.sequenceId)]) := by
    intro l'' token h₁ h₂
    exact ⟨by rw [h₁, hs.tokens, List.map_append]; rfl, by rw [h₂, hs.ids, List.map_append]; rfl⟩
  cases hphase : info.phase with
  | prefill =>
    simp only [executeInfo, hphase, executePrefill_eq ht l x hl hp] at h
    cases hsample : info.sampleOutputIndex with
    | none =>
      simp only [hsample, Option.isSome_none, Bool.false_eq_true, if_false] at h
      cases h
      exact ⟨_, [], .chunk hphase hsample, rfl, by simpa using ⟨hs.tokens, hs.ids⟩⟩
    | some i =>
      simp only [hsample, Option.isSome_some, if_true] at h
      cases hpos : posAfter l.pos info with
      | none =>
        simp only [hpos] at h
        cases h
      | some r =>
        simp only [hpos] at h
        cases h
        exact ⟨_, _, .completed hphase (by simp [hsample]) r hpos, rfl, hsnoc rfl rfl⟩
  | decode =>
    simp only [executeInfo, hphase, executeDecode_eq ht l x hl (hd hphase)] at h
    cases h
    exact ⟨_, _, .decode hphase _ rfl, rfl, hsnoc rfl rfl⟩

omit hl in
lemma executeInfo_error {err : Exn} (hl : l.blockManager = bm.withListener x)
    (h : executeInfo config l info = (.error err, l')) :
    info.phase = .prefill ∧ l.pos = none ∧ l'.blockManager = l.blockManager := by
  obtain ⟨ht, hp, hd⟩ := hc info (by simp)
  cases hphase : info.phase with
  | prefill =>
    simp only [executeInfo, hphase, executePrefill_eq ht l x hl hp] at h
    split_ifs at h
    · cases hpos : posAfter l.pos info with
      | none =>
        simp only [hpos] at h
        cases h
        simp only [posAfter] at hpos
        split_ifs at hpos with hempty
        · exact ⟨rfl, hpos, by simp only [hempty, writePrompts, List.foldl_nil, hl]⟩
        · exact absurd (List.getLast?_eq_none_iff.mp hpos) hempty
      | some r =>
        simp only [hpos] at h
        cases h
    · cases h
  | decode =>
    simp only [executeInfo, hphase, executeDecode_eq ht l x hl (hd hphase)] at h
    cases h

omit hl in
lemma executeInfo_unbound (hphase : info.phase = .prefill) (hl : l.blockManager = bm.withListener x)
    (h : executeInfo config l info = (.ok (), l')) (hpos : l'.pos = none) :
    l.pos = none ∧ l'.blockManager = l.blockManager := by
  obtain ⟨ht, hp, -⟩ := hc info (by simp)
  have hunbound : posAfter l.pos info = none → l.pos = none ∧ chunkPositions info = [] := by
    intro hn
    simp only [posAfter] at hn
    split_ifs at hn with hempty
    · exact ⟨hn, hempty⟩
    · exact absurd (List.getLast?_eq_none_iff.mp hn) hempty
  simp only [executeInfo, hphase, executePrefill_eq ht l x hl hp] at h
  split_ifs at h
  · cases hafter : posAfter l.pos info with
    | none =>
      simp only [hafter] at h
      cases h
    | some r =>
      simp only [hafter] at h
      cases h
      cases hpos
  · cases h
    obtain ⟨hn, hempty⟩ := hunbound hpos
    exact ⟨hn, by simp only [hempty, writePrompts, List.foldl_nil, hl]⟩

end Loop

def infoPositions (info : SequenceExecutionInfo) : List ℕ :=
  match info.phase with
  | .prefill => chunkPositions info
  | .decode => [info.cachedLenBefore]

lemma InfoEffect.agrees {table : List ℕ} {pos : Option ℕ} {x y : FakeState} {info : SequenceExecutionInfo}
    {items : List (ℕ × SeqId)} (h : InfoEffect config table pos x info y items) {obs : ℕ → Prop} {sid : SeqId}
    (hid : info.sequenceId ≠ sid)
    (hobs : ∀ r ∈ infoPositions info, ¬ obs (table.getD (r / config.blockSize) 0)) : Agrees obs sid x y := by
  have hprompts : info.phase = .prefill → ∀ p, obs p →
      blockTotal (writePrompts config table x (chunkPositions info)) p = blockTotal x p := by
    intro hphase p hp
    have hnil : (chunkPositions info).filter (fun r => table.getD (r / config.blockSize) 0 = p) = [] := by
      refine List.filter_eq_nil_iff.mpr fun r hr he => ?_
      simp only [infoPositions, hphase] at hobs
      exact hobs r hr (by rwa [of_decide_eq_true he])
    rw [blockTotal_writePrompts, hnil, List.map_nil, List.sum_nil, Nat.add_zero]
  cases h with
  | chunk hphase => exact ⟨hprompts hphase, lastOf_writePrompts config table x _ sid⟩
  | completed hphase hsample r hpos =>
    refine ⟨hprompts hphase, ?_⟩
    rw [lastOf_setLast, if_neg hid.symm, lastOf_writePrompts]
  | decode hphase token htoken =>
    refine ⟨fun p hp => ?_, ?_⟩
    · have hne : table.getD (info.cachedLenBefore / config.blockSize) 0 ≠ p := by
        rintro rfl
        exact hobs info.cachedLenBefore (by simp [infoPositions, hphase]) hp
      have hw := blockTotal_writeAt config table (setLast x info.sequenceId (lastOf x info.sequenceId)) p
        info.cachedLenBefore token
      rw [if_neg hne] at hw
      exact hw
    · rw [lastOf_setLast, if_neg hid.symm]
      have hw : ∀ z, lastOf (writeAt config table z info.cachedLenBefore token) sid = lastOf z sid := fun _ => rfl
      rw [hw, lastOf_setLast, if_neg hid.symm]

section Loops

variable {config} {bm : BlockManager FakeState} {obs : ℕ → Prop} {sid : SeqId}

def Foreign (config : Config) (bm : BlockManager FakeState) (obs : ℕ → Prop) (sid : SeqId)
    (infos : List SequenceExecutionInfo) : Prop :=
  ∀ info ∈ infos, info.sequenceId ≠ sid ∧ ∀ r ∈ infoPositions info,
    ¬ obs ((bm.getBlockTable info.sequenceId).getD (r / config.blockSize) 0)

theorem forEach_agrees {infos : List SequenceExecutionInfo} (hc : Covered config.blockSize bm infos)
    (hf : Foreign config bm obs sid infos) {l l' : ExecuteLoop} {x : FakeState} {items : List (ℕ × SeqId)}
    (hl : l.blockManager = bm.withListener x) (hs : Sampled l items)
    (h : forEach (executeInfo config) l infos = (.ok (), l')) :
    ∃ y more, Agrees obs sid x y ∧ l'.blockManager = bm.withListener y ∧ Sampled l' (items ++ more) := by
  induction infos generalizing l x items with
  | nil =>
    cases h
    exact ⟨x, [], .refl obs sid x, hl, by simpa using ⟨hs.tokens, hs.ids⟩⟩
  | cons info rest ih =>
    obtain ⟨l₁, he, hrest⟩ := forEach_cons_ok h
    obtain ⟨y, more, heff, hl₁, hs₁⟩ := executeInfo_effect
      (fun i hi => hc i (by simpa using Or.inl (List.mem_singleton.mp hi))) hl hs he
    obtain ⟨hid, hobs⟩ := hf info (by simp)
    obtain ⟨z, more', hz, hl', hs'⟩ := ih (fun i hi => hc i (List.mem_cons_of_mem info hi))
      (fun i hi => hf i (List.mem_cons_of_mem info hi)) hl₁ hs₁ hrest
    exact ⟨z, more ++ more', (heff.agrees config hid hobs).trans hz, hl', by rwa [← List.append_assoc]⟩

lemma tokenOf_of_mem {items : List (ℕ × SeqId)} (hnd : (items.map Prod.snd).Nodup) {item : ℕ × SeqId}
    (hm : item ∈ items) : tokenOf ⟨items.map Prod.fst, items.map Prod.snd⟩ item.2 = item.1 := by
  have hzip : (items.map Prod.fst).zip (items.map Prod.snd) = items := by
    simp [List.zip_map']
  obtain ⟨i, hi, rfl⟩ := List.getElem_of_mem hm
  have hfind : items.find? (fun item => item.2 = items[i].2) = some items[i] := by
    refine List.find?_eq_some_iff_getElem.mpr ⟨by simp, i, hi, rfl, fun j hj => ?_⟩
    have hne := (List.pairwise_iff_getElem.mp (List.pairwise_map.mp hnd)) j i (hj.trans hi) hi hj
    simpa using hne
  simp only [tokenOf, tokenFrom, hzip, hfind, Option.map_some, Option.getD_some]

theorem execute_effect {input : ModelInput} (hc : Covered config.blockSize bm input.sequenceInfo)
    {output : ModelRunnerOutput} {x' : FakeState}
    (hexec : execute config input bm = (.ok output, bm.withListener x'))
    (hnd : (input.sequenceInfo.map (·.sequenceId)).Nodup)
    (hd : ∀ info ∈ input.sequenceInfo, info.phase = .decode → info.sampleOutputIndex.isSome)
    {info : SequenceExecutionInfo} (hinfo : info ∈ input.sequenceInfo)
    (hf : Foreign config bm obs info.sequenceId
      (input.sequenceInfo.filter (·.sequenceId ≠ info.sequenceId))) :
    ∃ pos x y items, Agrees obs info.sequenceId bm.allocator.listener x ∧
      InfoEffect config (bm.getBlockTable info.sequenceId) pos x info y items ∧
      Agrees obs info.sequenceId y x' ∧ ∀ item ∈ items, tokenOf output item.2 = item.1 := by
  have hids := (execute_samples input bm output (by rw [hexec]) hd).1
  obtain ⟨before, after, hsplit⟩ := List.append_of_mem hinfo
  have hother : ∀ other ∈ before ++ after, other.sequenceId ≠ info.sequenceId := by
    rw [hsplit, List.map_append, List.map_cons] at hnd
    have hcons := List.nodup_cons.mp (List.nodup_middle.mp hnd)
    intro other hm he
    exact hcons.1 (by rw [← List.map_append, ← he]; exact List.mem_map_of_mem hm)
  have hforeign : ∀ other ∈ before ++ after, other ∈ input.sequenceInfo.filter (·.sequenceId ≠ info.sequenceId) := by
    intro other hm
    refine List.mem_filter.mpr ⟨?_, by simpa using hother other hm⟩
    rw [hsplit]
    rcases List.mem_append.mp hm with hm | hm
    · exact List.mem_append_left _ hm
    · exact List.mem_append_right _ (List.mem_cons_of_mem _ hm)
  have hcov : ∀ {infos : List SequenceExecutionInfo}, (∀ i ∈ infos, i ∈ input.sequenceInfo) →
      Covered config.blockSize bm infos := fun h i hi => hc i (h i hi)
  obtain ⟨l₃, hloop, rfl, hbm⟩ := execute_returns hexec
  rw [hsplit] at hloop
  obtain ⟨l₁, h₁, hloop⟩ := forEach_append_ok hloop
  obtain ⟨l₂, h₂, h₃⟩ := forEach_cons_ok hloop
  have hs₀ : Sampled { blockManager := bm } [] := ⟨rfl, rfl⟩
  obtain ⟨x, items₁, ha₁, hl₁, hs₁⟩ := forEach_agrees
    (hcov (fun i hi => by rw [hsplit]; exact List.mem_append_left _ hi))
    (fun i hi => hf i (hforeign i (List.mem_append_left _ hi)))
    (x := bm.allocator.listener) rfl hs₀ h₁
  obtain ⟨y, items₂, heff, hl₂, hs₂⟩ := executeInfo_effect
    (hcov (fun i hi => by rw [List.mem_singleton.mp hi]; exact hinfo)) hl₁ hs₁ h₂
  obtain ⟨z, items₃, ha₃, hl₃, hs₃⟩ := forEach_agrees
    (hcov (fun i hi => by rw [hsplit]; exact List.mem_append_right _ (List.mem_cons_of_mem _ hi)))
    (fun i hi => hf i (hforeign i (List.mem_append_right _ hi))) hl₂ hs₂ h₃
  obtain rfl : z = x' := congrArg (·.allocator.listener) (hl₃.symm.trans hbm.symm)
  refine ⟨_, x, y, items₂, ha₁, heff, ha₃, fun item hm => ?_⟩
  simp only [hs₃.tokens, hs₃.ids]
  refine tokenOf_of_mem ?_ (List.mem_append_left _ (List.mem_append_right _ hm))
  have hids' : l₃.sampledSequenceIds = sampledIds input.sequenceInfo := hids
  rw [← hs₃.ids, hids']
  exact hnd.sublist (List.filter_sublist.map _)

theorem execute_foreign {input : ModelInput} (hc : Covered config.blockSize bm input.sequenceInfo)
    {output : ModelRunnerOutput} {x' : FakeState}
    (hexec : execute config input bm = (.ok output, bm.withListener x'))
    (hf : Foreign config bm obs sid input.sequenceInfo) : Agrees obs sid bm.allocator.listener x' := by
  obtain ⟨l, h, -, hbm⟩ := execute_returns hexec
  have hs₀ : Sampled { blockManager := bm } [] := ⟨rfl, rfl⟩
  obtain ⟨y, items, ha, hl, -⟩ := forEach_agrees hc hf (x := bm.allocator.listener) rfl hs₀ h
  obtain rfl : y = x' := congrArg (·.allocator.listener) (hl.symm.trans hbm.symm)
  exact ha

lemma covered_head {info : SequenceExecutionInfo} {rest : List SequenceExecutionInfo}
    (h : Covered config.blockSize bm (info :: rest)) : Covered config.blockSize bm [info] :=
  fun i hi => h i (by simpa using Or.inl (List.mem_singleton.mp hi))

lemma prefills_error {prefills : List SequenceExecutionInfo} (hc : Covered config.blockSize bm prefills)
    (hprefill : ∀ info ∈ prefills, info.phase = .prefill) :
    (∀ l, forEach (executeInfo config) { blockManager := bm } prefills = (.ok (), l) →
      ∃ x, l.blockManager = bm.withListener x) ∧
    ∀ err l, forEach (executeInfo config) { blockManager := bm } prefills = (.error err, l) → l.blockManager = bm := by
  obtain ⟨hok, herr⟩ := forEach_rule (P := fun _ _ => True) (f := executeInfo config)
    (s := ({ blockManager := bm } : ExecuteLoop))
    (I := fun l rest => (∃ x, l.blockManager = bm.withListener x) ∧ (l.pos = none → l.blockManager = bm) ∧
      Covered config.blockSize bm rest ∧ ∀ info ∈ rest, info.phase = .prefill)
    (J := fun l => l.blockManager = bm)
    (fun l info rest l' hi _ h => by
      obtain ⟨⟨x, hl⟩, hpos, hc, hp⟩ := hi
      obtain ⟨y, hy⟩ := executeInfo_frame hl (covered_head hc)
      rw [h] at hy
      refine ⟨⟨y, hy⟩, fun hn => ?_, fun i hi => hc i (List.mem_cons_of_mem info hi),
        fun i hi => hp i (List.mem_cons_of_mem info hi)⟩
      obtain ⟨hn', hsame⟩ := executeInfo_unbound (covered_head hc) (hp info (by simp)) hl h hn
      exact hsame.trans (hpos hn'))
    (fun l info rest err l' hi _ h => by
      obtain ⟨⟨x, hl⟩, hpos, hc, -⟩ := hi
      obtain ⟨-, hn, hsame⟩ := executeInfo_error (covered_head hc) hl h
      exact hsame.trans (hpos hn))
    ⟨⟨bm.allocator.listener, rfl⟩, fun _ => rfl, hc, hprefill⟩ (ForEachAll.of_forall (fun _ _ => trivial) _ _)
  exact ⟨fun l h => (hok l h).1, herr⟩

lemma decodes_ok {decodes : List SequenceExecutionInfo} (hc : Covered config.blockSize bm decodes)
    (hdecode : ∀ info ∈ decodes, info.phase = .decode) {l : ExecuteLoop}
    (hl : ∃ x, l.blockManager = bm.withListener x) (err : Exn) (l' : ExecuteLoop) :
    forEach (executeInfo config) l decodes ≠ (.error err, l') := by
  obtain ⟨-, herr⟩ := forEach_rule (P := fun _ _ => True) (f := executeInfo config) (s := l)
    (I := fun l rest => (∃ x, l.blockManager = bm.withListener x) ∧
      Covered config.blockSize bm rest ∧ ∀ info ∈ rest, info.phase = .decode)
    (J := fun _ => False)
    (fun l info rest l' hi _ h => by
      obtain ⟨⟨x, hl⟩, hc, hp⟩ := hi
      obtain ⟨y, hy⟩ := executeInfo_frame hl (covered_head hc)
      rw [h] at hy
      exact ⟨⟨y, hy⟩, fun i hi => hc i (List.mem_cons_of_mem info hi),
        fun i hi => hp i (List.mem_cons_of_mem info hi)⟩)
    (fun l info rest err l' hi _ h => by
      obtain ⟨⟨x, hl⟩, hc, hp⟩ := hi
      have hphase := (executeInfo_error (covered_head hc) hl h).1
      simp [hp info (by simp)] at hphase)
    ⟨hl, hc, hdecode⟩ (ForEachAll.of_forall (fun _ _ => trivial) _ _)
  exact herr err l'

/-- An execution that raises has written nothing: decode entries, which come last, never raise. -/
theorem execute_error {input : ModelInput} (hc : Covered config.blockSize bm input.sequenceInfo)
    {prefills decodes : List SequenceExecutionInfo} (hsplit : input.sequenceInfo = prefills ++ decodes)
    (hprefill : ∀ info ∈ prefills, info.phase = .prefill) (hdecode : ∀ info ∈ decodes, info.phase = .decode)
    {err : Exn} {x' : FakeState}
    (hexec : execute config input bm = (.error err, bm.withListener x')) : x' = bm.allocator.listener := by
  rw [hsplit] at hc
  obtain ⟨hok, herr⟩ := prefills_error (fun i hi => hc i (List.mem_append_left _ hi)) hprefill
  have hnever := fun l hl => decodes_ok (l := l) (fun i hi => hc i (List.mem_append_right _ hi)) hdecode hl
  simp only [execute] at hexec
  rw [hsplit, forEach_append] at hexec
  cases h₁ : forEach (executeInfo config) { blockManager := bm } prefills with
  | mk r₁ l₁ =>
    rw [h₁] at hexec
    cases r₁ with
    | error err₁ =>
      have hbm := herr err₁ l₁ h₁
      simp only [Prod.mk.injEq] at hexec
      exact congrArg (·.allocator.listener) (hexec.2.symm.trans hbm)
    | ok u =>
      cases h₂ : forEach (executeInfo config) l₁ decodes with
      | mk r₂ l₂ =>
        simp only [h₂] at hexec
        cases r₂ with
        | error err₂ => exact absurd h₂ (hnever l₁ (hok l₁ h₁) err₂ l₂)
        | ok u => cases hexec

end Loops

end FakeModelExecutor

end MiniVllm
