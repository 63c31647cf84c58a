import MiniVllm.EngineProofs.Growth
import MiniVllm.EngineProofs.Termination
import MiniVllm.SchedulerProofs.Rejections
import MiniVllm.ServingProofs.Calls

/-! When admission control keeps the steps of the engine from running out of blocks. -/

namespace MiniVllm

open EngineCore

variable {ε : Type} {S : Setup ε}

def ensuresReturn (S : Setup ε) : CallCondition ε where
  ensure _ bm q position := ¬ OutOfMemory (bm.ensureBlock S.blockParams q position).1

section Decidable

variable (qu : RequestQueue) (bm : BlockManager ε)

instance (sg : SequenceGroup) : Decidable ((ensuresReturn S).probe qu bm sg) := inferInstanceAs (Decidable True)

instance (sg : SequenceGroup) : Decidable ((ensuresReturn S).admission qu bm sg) := inferInstanceAs (Decidable True)

instance (q : Sequence) (position : ℕ) : Decidable ((ensuresReturn S).ensure qu bm q position) :=
  inferInstanceAs (Decidable (¬ _))

instance (prefill decode : List Sequence) : Decidable ((ensuresReturn S).batch qu bm prefill decode) :=
  inferInstanceAs (Decidable True)

end Decidable

lemma Reserved.ensures_return {s : CoreState ε} (hw : WellFormed S s) (h : Reserved S.config s) {q : Sequence}
    {position : ℕ} (hready : EnsureReady S.config s.queue s.blockManager q position)
    (hc : q.status = .running → (q.numGeneratedTokens : ℤ) < q.samplingParams.maxTokens) :
    ¬ OutOfMemory (s.blockManager.ensureBlock S.blockParams q position).1 := by
  have hspec := hw.ensures hready
  generalize (s.blockManager.ensureBlock S.blockParams q position).1 = r at hspec
  generalize (s.blockManager.ensureBlock S.blockParams q position).2 = bm at hspec
  cases hspec with
  | covered => exact id
  | hit => exact id
  | miss => exact id
  | outOfMemory hlen hmiss hnone =>
    exfalso
    obtain ⟨sg, hsg, -, -, hl⟩ := hw.queue.runningSeq_group hready.live
    have hlimit := hready.lt_blockLimit hc hl
    have hzero := BlockAllocator.numFreeBlocks_eq_zero hw.balanced.valid hnone
    have hle := s.queue.running.le_total (·.growth S.config s.blockManager) hsg
    have hlen' : position / S.config.blockSize = (s.blockManager.getBlockTable q.seqId).length := hlen
    rw [hl.seqId] at hlen'
    simp only [Reserved, RequestQueue.growth] at h
    simp only [SequenceGroup.growth] at hle h
    omega

section Engine

variable {s : EngineState ε} (hw : WellFormed S s.core) (h : Reserved S.config s.core)

include hw h

lemma Reserved.ensures_step (now : ℚ) : (ensuresReturn S).Step S s now := by
  have hcount : (beginStep S s now).core.seqGroupCount = s.core.seqGroupCount := beginStep_seqGroupCount s now
  have hwb := beginStep_wellFormed hw now
  have hb : Reserved S.config (beginStep S s now).core := h.reaches hw (beginStep_refines hw now) hcount
  have hvisited := (step_refines hw (decoding_step hw now)).2
  refine hvisited.imp ?_ ?_ ?_ ?_
  · exact fun _ _ _ _ => trivial
  · exact fun _ _ _ _ => trivial
  · rintro queue bm q position ⟨hdec, hreach, hready⟩
    have hend : Reserved S.config ⟨queue, bm, (beginStep S s now).core.seqGroupCount⟩ := hb.reaches hwb hreach rfl
    exact hend.ensures_return (hwb.reaches hreach) hready hdec
  · exact fun _ _ _ _ _ => trivial

lemma Reserved.after_step (now : ℚ) : Reserved S.config (LLMEngine.step S s now).2.core := by
  have hcount : (EngineCore.step S s now).2.core.seqGroupCount = s.core.seqGroupCount := step_seqGroupCount S s now
  rw [(LLMEngine.step_result (S := S) s now).2]
  exact h.reaches hw (step_refines hw (decoding_step hw now)).1 hcount

omit h hw in
lemma Reserved.loop {s : EngineState ε} (hw : WellFormed S s.core) (h : Reserved S.config s.core) (readings : List ℚ) :
    StepCondition.Loop ((ensuresReturn S).Step S) S readings s ∧
      Reserved S.config (LLMEngine.runUntilDone S readings s).2.core := by
  induction readings generalizing s with
  | nil => exact ⟨trivial, h⟩
  | cons now readings ih =>
    have hstep := h.ensures_step hw now
    have hafter := h.after_step hw now
    have hreach : Reaches S {} s.core (LLMEngine.step S s now).2.core := (ServingLayer.Drives.step s now).reaches hw
    simp only [StepCondition.Loop, LLMEngine.runUntilDone]
    generalize LLMEngine.step S s now = out at hafter hreach
    obtain ⟨r, s₁⟩ := out
    cases r with
    | error err => exact ⟨⟨hstep, trivial⟩, hafter⟩
    | ok result =>
      obtain ⟨hloop, hend⟩ := ih (hw.reaches hreach) hafter
      dsimp only
      split_ifs with hempty
      · exact ⟨⟨hstep, Or.inl hempty⟩, hafter⟩
      · exact ⟨⟨hstep, Or.inr hloop⟩, hend⟩

end Engine

namespace ServingLayer

def StepsMeet (C : StepCondition ε) (S : Setup ε) (s : ServingState ε) : Call → Prop
  | .generate prompt maxTokens stream trackingId clock readings =>
    match generateGates S s prompt maxTokens stream trackingId clock with
    | (.error _, _) => True
    | (.ok _, s) => C.Loop S readings s.engine
  | .pollStream _ _ _ now _ => C s.engine now
  | .step now => C s.engine now
  | _ => True

/-- The free blocks cover the request and all that those in the engine may still take. -/
def FreeFor (S : Setup ε) (s : ServingState ε) (prompt : List Char) (maxTokens : ℤ) : Prop :=
  s.engine.queue.growth S.config s.engine.blockManager +
    blockLimit S.config (S.executor.tokenize prompt).length maxTokens ≤ s.engine.blockManager.allocator.numFreeBlocks

def Covered (S : Setup ε) (s : ServingState ε) : Call → Prop
  | .generate prompt maxTokens stream trackingId clock _ =>
    match (generateGates S s prompt maxTokens stream trackingId clock).1 with
    | .error _ => True
    | .ok _ => FreeFor S s prompt maxTokens
  | .generateStream prompt maxTokens trackingId clock =>
    match (generateStream S s prompt maxTokens trackingId clock).1 with
    | .error _ => True
    | .ok _ => FreeFor S s prompt maxTokens
  | _ => True

section Counts

variable (s : ServingState ε) (rid : RequestId)

lemma pollStream_seqGroupCount (trackingId : TrackingId) (genCount : ℕ) (now now' : ℚ) :
    (pollStream S s rid trackingId genCount now now').2.engine.seqGroupCount = s.engine.seqGroupCount := by
  have hcount := LLMEngine.step_count (S := S) s.engine now
  cases hstep : LLMEngine.step S s.engine now with
  | mk r engine =>
  rw [hstep] at hcount
  cases r with
  | error err =>
    simp only [pollStream, hstep]
    exact hcount
  | ok result =>
    rw [pollStream_engine s rid trackingId genCount now now' hstep, checkTimeouts_seqGroupCount]
    exact hcount

lemma cancel_seqGroupCount : (cancel S s rid).2.engine.seqGroupCount = s.engine.seqGroupCount := by
  have hcount := cancelRequest_seqGroupCount S s.engine rid
  rw [cancel]
  split <;> rename_i he <;> rw [he] at hcount <;> exact hcount

lemma closeStream_seqGroupCount (trackingId : TrackingId) (finished : Bool) :
    (closeStream S s rid trackingId finished).engine.seqGroupCount = s.engine.seqGroupCount := by
  simp only [closeStream, abort]
  split_ifs
  · rfl
  · rfl
  · exact cancel_seqGroupCount { s with finishedRequests := insert rid s.finishedRequests } rid

end Counts

section Decidable

instance (s : ServingState ε) (prompt : List Char) (maxTokens : ℤ) : Decidable (FreeFor S s prompt maxTokens) :=
  inferInstanceAs (Decidable (_ ≤ _))

instance (s : ServingState ε) : (call : Call) → Decidable (Covered S s call)
  | .generate prompt maxTokens stream trackingId clock _ =>
    have : Decidable (match (generateGates S s prompt maxTokens stream trackingId clock).1 with
        | .error _ => True
        | .ok _ => FreeFor S s prompt maxTokens) :=
      match (generateGates S s prompt maxTokens stream trackingId clock).1 with
      | .error _ => isTrue trivial
      | .ok _ => inferInstanceAs (Decidable (FreeFor S s prompt maxTokens))
    this
  | .generateStream prompt maxTokens trackingId clock =>
    have : Decidable (match (generateStream S s prompt maxTokens trackingId clock).1 with
        | .error _ => True
        | .ok _ => FreeFor S s prompt maxTokens) :=
      match (generateStream S s prompt maxTokens trackingId clock).1 with
      | .error _ => isTrue trivial
      | .ok _ => inferInstanceAs (Decidable (FreeFor S s prompt maxTokens))
    this
  | .pollStream _ _ _ _ _ => isTrue trivial
  | .closeStream _ _ _ => isTrue trivial
  | .cancel _ => isTrue trivial
  | .step _ => isTrue trivial
  | .checkTimeouts _ => isTrue trivial

instance decidableThroughout (P : ServingState ε → Call → Prop) [∀ s call, Decidable (P s call)] :
    (s : ServingState ε) → (calls : List Call) → Decidable (Throughout P S s calls)
  | _, [] => isTrue trivial
  | s, call :: calls =>
    have := decidableThroughout P (apply S s call) calls
    inferInstanceAs (Decidable (_ ∧ _))

end Decidable

section Calls

variable {s : ServingState ε} (hw : WellFormed S s.engine.core)

include hw

lemma FreeFor.after_submit {s₁ : ServingState ε} {prompt : List Char} {maxTokens : ℤ} (h : FreeFor S s prompt maxTokens)
    (hcore : s₁.engine.core = s.engine.core) (clock : Clock) :
    Reserved S.config (submit S s₁ prompt maxTokens clock).engine.core := by
  have hnone : s₁.engine.queue.waiting.get? s₁.engine.seqGroupCount = none := by
    rw [← hcore] at hw
    cases hg : s₁.engine.queue.waiting.get? s₁.engine.seqGroupCount with
    | none => rfl
    | some sg => exact absurd (hw.queue.waiting _ sg hg).2.1 (Nat.lt_irrefl _)
  have hqueue : s₁.engine.queue = s.engine.queue := congrArg CoreState.queue hcore
  have hbm : s₁.engine.blockManager = s.engine.blockManager := congrArg CoreState.blockManager hcore
  let sg : SequenceGroup :=
    { requestId := s₁.engine.seqGroupCount
      samplingParams := { maxTokens := maxTokens }
      promptTokenIds := S.executor.tokenize prompt
      arrivalTime := clock.arrival }
  have hset := s₁.engine.queue.waiting.total_set_new (·.blockLimit S.config) _ sg hnone
  have hlimit : sg.blockLimit S.config = blockLimit S.config (S.executor.tokenize prompt).length maxTokens := rfl
  rw [FreeFor, ← hqueue, ← hbm, RequestQueue.growth] at h
  change (s₁.engine.queue.waiting.set s₁.engine.seqGroupCount sg).total (·.blockLimit S.config) +
    s₁.engine.queue.running.total (·.growth S.config s₁.engine.blockManager) ≤
      s₁.engine.blockManager.allocator.numFreeBlocks
  omega

lemma Drives.reserved {s' : EngineState ε} (h : Reserved S.config s.engine.core) (hd : Drives S s.engine s')
    (hn : s'.seqGroupCount = s.engine.seqGroupCount) : Reserved S.config s'.core := by
  obtain ⟨s₁, ops, hcore, rfl⟩ := hd
  rw [← hcore] at hw h
  have hcount : s₁.seqGroupCount = s.engine.seqGroupCount := congrArg CoreState.seqGroupCount hcore
  exact h.reaches hw (runFrom_refines hw ops (decoding_runFrom hw ops)) (hn.trans hcount.symm)

lemma generate_reserved (h : Reserved S.config s.engine.core) (prompt : List Char) (maxTokens : ℤ) (stream : Bool)
    (trackingId : TrackingId) (clock : Clock) (readings : List ℚ)
    (hc : Covered S s (.generate prompt maxTokens stream trackingId clock readings)) :
    StepsMeet ((ensuresReturn S).Step S) S s (.generate prompt maxTokens stream trackingId clock readings) ∧
      Reserved S.config (generate S s prompt maxTokens stream trackingId clock readings).2.engine.core := by
  have hgates := generateGates_spec (S := S) s prompt maxTokens stream trackingId clock
  simp only [Covered] at hc
  simp only [StepsMeet]
  cases hg : generateGates S s prompt maxTokens stream trackingId clock with
  | mk r s' =>
  rw [hg] at hgates hc
  cases hgates with
  | refused response _ herror hcore =>
    simp only [generate, hg]
    refine ⟨trivial, ?_⟩
    rw [hcore]
    exact h
  | submitted s₁ hcheck hcore =>
    have hfree : FreeFor S s prompt maxTokens := hc
    have hws : WellFormed S (submit S s₁ prompt maxTokens clock).engine.core := by
      rw [← hcore] at hw
      exact submit_wellFormed hw prompt maxTokens clock
    rw [generate_engine readings hg]
    exact (hfree.after_submit hw hcore clock).loop hws readings

lemma generateStream_reserved (h : Reserved S.config s.engine.core) (prompt : List Char) (maxTokens : ℤ)
    (trackingId : TrackingId) (clock : Clock) (hc : Covered S s (.generateStream prompt maxTokens trackingId clock)) :
    Reserved S.config (generateStream S s prompt maxTokens trackingId clock).2.engine.core := by
  have hopens := generateStream_spec (S := S) s prompt maxTokens trackingId clock
  simp only [Covered] at hc
  generalize (generateStream S s prompt maxTokens trackingId clock).1 = r at hopens hc
  generalize (generateStream S s prompt maxTokens trackingId clock).2 = s' at hopens ⊢
  cases hopens with
  | refused error _ hcore =>
    rw [hcore]
    exact h
  | submitted s₁ hcheck hcore =>
    have hfree : FreeFor S s prompt maxTokens := hc
    exact hfree.after_submit hw hcore clock

lemma call_reserved (h : Reserved S.config s.engine.core) (call : Call) (hc : Covered S s call) :
    StepsMeet ((ensuresReturn S).Step S) S s call ∧ Reserved S.config (apply S s call).engine.core := by
  cases call with
  | generate prompt maxTokens stream trackingId clock readings =>
    rw [apply]
    exact generate_reserved hw h prompt maxTokens stream trackingId clock readings hc
  | generateStream prompt maxTokens trackingId clock =>
    rw [apply]
    exact ⟨trivial, generateStream_reserved hw h prompt maxTokens trackingId clock hc⟩
  | pollStream rid trackingId genCount now now' =>
    have hafter : Reserved S.config (pollStream S s rid trackingId genCount now now').2.engine.core :=
      (pollStream_drives s rid trackingId genCount now now').reserved hw h
        (pollStream_seqGroupCount s rid trackingId genCount now now')
    rw [apply]
    exact ⟨h.ensures_step hw now, hafter⟩
  | closeStream rid trackingId finished =>
    have hafter : Reserved S.config (closeStream S s rid trackingId finished).engine.core :=
      (closeStream_drives s rid trackingId finished).reserved hw h (closeStream_seqGroupCount s rid trackingId finished)
    rw [apply]
    exact ⟨trivial, hafter⟩
  | cancel rid =>
    have hafter : Reserved S.config (cancel S s rid).2.engine.core :=
      (cancel_drives s rid).reserved hw h (cancel_seqGroupCount s rid)
    rw [apply]
    exact ⟨trivial, hafter⟩
  | step now =>
    rw [apply]
    exact ⟨h.ensures_step hw now, h.after_step hw now⟩
  | checkTimeouts now =>
    have hafter : Reserved S.config (checkTimeouts S s.engine now).core :=
      h.reaches hw (checkTimeouts_refines hw now) (checkTimeouts_seqGroupCount S s.engine now)
    rw [apply]
    exact ⟨trivial, hafter⟩

end Calls

theorem no_exhaustion (S : Setup ε) (calls : List Call) (h : Throughout (Covered S) S (initial S) calls) :
    Throughout (StepsMeet ((ensuresReturn S).Step S) S) S (initial S) calls := by
  have hrun : ∀ (calls : List Call) (s : ServingState ε), WellFormed S s.engine.core → Reserved S.config s.engine.core →
      Throughout (Covered S) S s calls → Throughout (StepsMeet ((ensuresReturn S).Step S) S) S s calls := by
    intro calls
    induction calls with
    | nil => exact fun _ _ _ _ => trivial
    | cons call rest ih =>
      rintro s hw hr ⟨hc, hrest⟩
      obtain ⟨hsteps, hafter⟩ := call_reserved hw hr call hc
      exact ⟨hsteps, ih _ (hw.reaches (apply_reaches hw call)) hafter hrest⟩
  exact hrun calls _ (WellFormed.initial S) (Nat.zero_le _) h

lemma four_pos : 0 < 4 := Nat.succ_pos 3

def fourBlocks : Config :=
  { Config.default with
    blockSize := 1
    numGpuBlocks := 4
    blockSize_pos := Nat.one_pos
    numGpuBlocks_pos := four_pos }

def shortStreams : List Call :=
  [.generateStream ['a'] 2 1 {}, .pollStream 0 1 0 0 0, .generateStream ['b'] 2 2 {}, .pollStream 1 2 0 1 1,
    .pollStream 1 2 0 2 2, .pollStream 1 2 0 3 3]

theorem no_exhaustion_of_short_streams :
    Throughout (StepsMeet ((ensuresReturn (fakeSetup fourBlocks codeHash)).Step (fakeSetup fourBlocks codeHash))
      (fakeSetup fourBlocks codeHash)) (fakeSetup fourBlocks codeHash) (initial (fakeSetup fourBlocks codeHash))
        shortStreams :=
  no_exhaustion (fakeSetup fourBlocks codeHash) shortStreams (by decide +kernel)

theorem admitted_streams_exhaust : ¬ ∀ (config : Config) (blockHash : List ℕ → ℤ) (calls : List Call),
    Throughout (StepsMeet ((ensuresReturn (fakeSetup config blockHash)).Step (fakeSetup config blockHash))
      (fakeSetup config blockHash)) (fakeSetup config blockHash) (initial (fakeSetup config blockHash)) calls := by
  intro h
  have hall := h fourBlocks codeHash
    [.generateStream ['a'] 3 1 {}, .generateStream ['b'] 3 2 {}, .pollStream 0 1 0 0 0, .pollStream 1 2 0 0 0,
      .pollStream 0 1 0 0 0]
  have hlast := hall.2.2.2.2.1
  simp only [StepsMeet] at hlast
  revert hlast
  decide +kernel

end ServingLayer

end MiniVllm
