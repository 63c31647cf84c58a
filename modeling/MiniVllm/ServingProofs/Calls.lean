import MiniVllm.Serving.ApiServer
import MiniVllm.EngineProofs.Requests

/-! What each serving call does to the engine. -/

namespace MiniVllm

namespace LLMEngine

variable {ε : Type} (S : Setup ε)

lemma runUntilDone_steps (readings : List ℚ) (s : EngineState ε) :
    ∃ taken : List ℚ, (runUntilDone S readings s).2 = (taken.map Op.step).foldl (apply S) s := by
  induction readings generalizing s with
  | nil => exact ⟨[], rfl⟩
  | cons now readings ih =>
    have hone : (step S s now).2 = apply S s (.step now) := rfl
    rw [runUntilDone]
    split
    · rename_i err s₁ he
      rw [he] at hone
      exact ⟨[now], hone⟩
    · rename_i result s₁ he
      rw [he] at hone
      split_ifs
      · exact ⟨[now], hone⟩
      · obtain ⟨taken, ht⟩ := ih s₁
        refine ⟨now :: taken, ?_⟩
        rw [ht, List.map_cons, List.foldl_cons, ← hone]

end LLMEngine

namespace ServingLayer

variable {ε : Type} {S : Setup ε}

def Throughout (P : ServingState ε → Call → Prop) (S : Setup ε) : ServingState ε → List Call → Prop
  | _, [] => True
  | s, call :: calls => P s call ∧ Throughout P S (apply S s call) calls

lemma Throughout.congr {P Q : ServingState ε → Call → Prop} (h : ∀ s call, P s call ↔ Q s call) (calls : List Call)
    (s : ServingState ε) : Throughout P S s calls ↔ Throughout Q S s calls := by
  induction calls generalizing s with
  | nil => exact Iff.rfl
  | cons call rest ih => exact and_congr (h s call) (ih (apply S s call))

inductive Gates (S : Setup ε) (s : ServingState ε) (prompt : List Char) (maxTokens : ℤ) (clock : Clock) :
    Except ServingResponse RequestId → ServingState ε → Prop
  | refused (response : ServingResponse) (s' : ServingState ε) (herror : response.error.isSome = true)
      (hcore : s'.engine.core = s.engine.core) : Gates S s prompt maxTokens clock (.error response) s'
  | submitted (s₁ : ServingState ε) (hcheck : admissionCheck S s prompt maxTokens = none)
      (hcore : s₁.engine.core = s.engine.core) :
      Gates S s prompt maxTokens clock (.ok s.engine.seqGroupCount) (submit S s₁ prompt maxTokens clock)

lemma generateGates_spec (s : ServingState ε) (prompt : List Char) (maxTokens : ℤ) (stream : Bool)
    (trackingId : TrackingId) (clock : Clock) :
    Gates S s prompt maxTokens clock (generateGates S s prompt maxTokens stream trackingId clock).1
      (generateGates S s prompt maxTokens stream trackingId clock).2 := by
  rw [generateGates]
  split
  · exact .refused _ _ rfl rfl
  · rename_i hcheck
    split
    · exact .refused _ _ rfl rfl
    · dsimp only
      split_ifs
      · exact .refused _ _ rfl rfl
      · exact .submitted _ hcheck rfl
      · exact .refused _ _ rfl rfl
      · exact .submitted _ hcheck rfl

inductive Opens (S : Setup ε) (s : ServingState ε) (prompt : List Char) (maxTokens : ℤ) (trackingId : TrackingId)
    (clock : Clock) : Except (String × ErrorCode) (RequestId × TrackingId) → ServingState ε → Prop
  | refused (error : String × ErrorCode) (s' : ServingState ε) (hcore : s'.engine.core = s.engine.core) :
      Opens S s prompt maxTokens trackingId clock (.error error) s'
  | submitted (s₁ : ServingState ε) (hcheck : admissionCheck S s prompt maxTokens = none)
      (hcore : s₁.engine.core = s.engine.core) :
      Opens S s prompt maxTokens trackingId clock (.ok (s.engine.seqGroupCount, trackingId))
        (submit S s₁ prompt maxTokens clock)

lemma generateStream_spec (s : ServingState ε) (prompt : List Char) (maxTokens : ℤ) (trackingId : TrackingId)
    (clock : Clock) :
    Opens S s prompt maxTokens trackingId clock (generateStream S s prompt maxTokens trackingId clock).1
      (generateStream S s prompt maxTokens trackingId clock).2 := by
  rw [generateStream]
  split
  · exact .refused _ _ rfl
  · rename_i hcheck
    split
    · exact .refused _ _ rfl
    · dsimp only
      split
      · exact .refused _ _ rfl
      · exact .submitted _ hcheck rfl

def Drives (S : Setup ε) (s s' : EngineState ε) : Prop :=
  ∃ (s₁ : EngineState ε) (ops : List LLMEngine.Op), s₁.core = s.core ∧ s' = ops.foldl (LLMEngine.apply S) s₁

lemma Drives.refl (s : EngineState ε) : Drives S s s := ⟨s, [], rfl, rfl⟩

lemma Drives.of_core {s s' : EngineState ε} (h : s'.core = s.core) : Drives S s s' := ⟨s', [], h, rfl⟩

lemma Drives.step (s : EngineState ε) (now : ℚ) : Drives S s (LLMEngine.step S s now).2 := ⟨s, [.step now], rfl, rfl⟩

lemma generate_engine {s s' : ServingState ε} {prompt : List Char} {maxTokens : ℤ} {stream : Bool}
    {trackingId : TrackingId} {clock : Clock} (readings : List ℚ) {engineRid : RequestId}
    (h : generateGates S s prompt maxTokens stream trackingId clock = (.ok engineRid, s')) :
    (generate S s prompt maxTokens stream trackingId clock readings).2.engine =
      (LLMEngine.runUntilDone S readings s'.engine).2 := by
  simp only [generate, h]
  split <;> rename_i he <;> rw [he]

lemma generate_returned {s s' s'' : ServingState ε} {prompt : List Char} {maxTokens : ℤ} {stream : Bool}
    {trackingId : TrackingId} {clock : Clock} {readings : List ℚ} {engineRid : RequestId} {response : ServingResponse}
    (h : generateGates S s prompt maxTokens stream trackingId clock = (.ok engineRid, s'))
    (hreturn : generate S s prompt maxTokens stream trackingId clock readings = (some (.ok response), s'')) :
    ∃ outputs, LLMEngine.runUntilDone S readings s'.engine = (some (.ok outputs), s''.engine) ∧
      response.text = (outputs.get? engineRid).getD [] := by
  simp only [generate, h] at hreturn
  split at hreturn
  · cases hreturn
  · cases hreturn
  · rename_i outputs engine he
    cases hreturn
    exact ⟨outputs, he, rfl⟩

lemma generate_drives (s : ServingState ε) (prompt : List Char) (maxTokens : ℤ) (stream : Bool)
    (trackingId : TrackingId) (clock : Clock) (readings : List ℚ) :
    Drives S s.engine (generate S s prompt maxTokens stream trackingId clock readings).2.engine := by
  have hgates := generateGates_spec (S := S) s prompt maxTokens stream trackingId clock
  cases h : generateGates S s prompt maxTokens stream trackingId clock with
  | mk r s' =>
  rw [h] at hgates
  cases hgates with
  | refused response _ herror hcore =>
    simp only [generate, h]
    exact .of_core hcore
  | submitted s₁ hcheck hcore =>
    obtain ⟨taken, ht⟩ := LLMEngine.runUntilDone_steps S readings (submit S s₁ prompt maxTokens clock).engine
    rw [generate_engine readings h]
    exact ⟨s₁.engine, .addRequest prompt maxTokens clock.arrival :: taken.map .step, hcore, ht⟩

lemma generateStream_drives (s : ServingState ε) (prompt : List Char) (maxTokens : ℤ) (trackingId : TrackingId)
    (clock : Clock) :
    Drives S s.engine (generateStream S s prompt maxTokens trackingId clock).2.engine := by
  have hopens := generateStream_spec (S := S) s prompt maxTokens trackingId clock
  generalize (generateStream S s prompt maxTokens trackingId clock).1 = r at hopens
  generalize (generateStream S s prompt maxTokens trackingId clock).2 = s' at hopens ⊢
  cases hopens with
  | refused error _ hcore => exact .of_core hcore
  | submitted s₁ hcheck hcore => exact ⟨s₁.engine, [.addRequest prompt maxTokens clock.arrival], hcore, rfl⟩

lemma pollStream_engine (s : ServingState ε) (engineRid : RequestId) (trackingId : TrackingId) (genCount : ℕ)
    (now now' : ℚ) {result : ScheduleResult} {engine : EngineState ε}
    (h : LLMEngine.step S s.engine now = (.ok result, engine)) :
    (pollStream S s engineRid trackingId genCount now now').2.engine = EngineCore.checkTimeouts S engine now' := by
  simp only [pollStream, h]
  split
  · rfl
  · split
    · split <;> rfl
    · rfl

lemma pollStream_drives (s : ServingState ε) (engineRid : RequestId) (trackingId : TrackingId) (genCount : ℕ)
    (now now' : ℚ) : Drives S s.engine (pollStream S s engineRid trackingId genCount now now').2.engine := by
  cases h : LLMEngine.step S s.engine now with
  | mk r engine =>
    cases r with
    | error err =>
      have hdrives := Drives.step (S := S) s.engine now
      rw [h] at hdrives
      simp only [pollStream, h]
      exact hdrives
    | ok result =>
      rw [pollStream_engine s engineRid trackingId genCount now now' h]
      refine ⟨s.engine, [.step now, .checkTimeouts now'], rfl, ?_⟩
      have hstep : engine = LLMEngine.apply S s.engine (.step now) := by rw [LLMEngine.apply, h]
      rw [List.foldl_cons, ← hstep]
      rfl

lemma cancel_drives (s : ServingState ε) (rid : RequestId) : Drives S s.engine (cancel S s rid).2.engine := by
  refine ⟨s.engine, [.cancelRequest rid], rfl, ?_⟩
  change _ = (EngineCore.cancelRequest S s.engine rid).2
  rw [cancel]
  split
  · rename_i he
    rw [he]
  · rename_i he
    rw [he]

lemma closeStream_drives (s : ServingState ε) (engineRid : RequestId) (trackingId : TrackingId) (finished : Bool) :
    Drives S s.engine (closeStream S s engineRid trackingId finished).engine := by
  simp only [closeStream, abort]
  split_ifs
  · exact .refl _
  · exact .refl _
  · exact cancel_drives { s with finishedRequests := insert engineRid s.finishedRequests } engineRid

theorem apply_drives (s : ServingState ε) (call : Call) : Drives S s.engine (apply S s call).engine := by
  cases call with
  | generate prompt maxTokens stream trackingId clock readings =>
    rw [apply]
    exact generate_drives s prompt maxTokens stream trackingId clock readings
  | generateStream prompt maxTokens trackingId clock =>
    rw [apply]
    exact generateStream_drives s prompt maxTokens trackingId clock
  | pollStream engineRid trackingId genCount now now' =>
    rw [apply]
    exact pollStream_drives s engineRid trackingId genCount now now'
  | closeStream engineRid trackingId finished => exact closeStream_drives _ _ _ _
  | cancel rid => exact cancel_drives _ _
  | step now =>
    rw [apply]
    exact .step s.engine now
  | checkTimeouts now => exact ⟨s.engine, [.checkTimeouts now], rfl, rfl⟩

lemma Drives.reaches {s s' : EngineState ε} (hw : WellFormed S s.core) (h : Drives S s s') :
    Reaches S {} s.core s'.core := by
  obtain ⟨s₁, ops, hcore, rfl⟩ := h
  rw [← hcore] at hw ⊢
  exact runFrom_refines hw ops (runFrom_true s₁ ops)

lemma Drives.step_reaches {s s' : EngineState ε} (hw : WellFormed S s.core) {now : ℚ} {r : Except Exn ScheduleResult}
    (hstep : LLMEngine.step S s now = (r, s')) : Reaches S {} s.core s'.core := by
  have hreach := (Drives.step s now).reaches hw
  rwa [hstep] at hreach

lemma submit_wellFormed {s : ServingState ε} (hw : WellFormed S s.engine.core) (prompt : List Char) (maxTokens : ℤ)
    (clock : Clock) : WellFormed S (submit S s prompt maxTokens clock).engine.core := by
  have hdrives : Drives S s.engine (submit S s prompt maxTokens clock).engine :=
    ⟨s.engine, [.addRequest prompt maxTokens clock.arrival], rfl, rfl⟩
  exact hw.reaches (hdrives.reaches hw)

lemma submit_live (s : ServingState ε) (prompt : List Char) (maxTokens : ℤ) (clock : Clock) :
    (submit S s prompt maxTokens clock).engine.queue.waiting.get? s.engine.seqGroupCount ≠ none := by
  have hset : (submit S s prompt maxTokens clock).engine.queue.waiting.get? s.engine.seqGroupCount = some _ :=
    s.engine.queue.waiting.get?_set_self _ _
  rw [hset]
  simp

structure SameSlots (s s' : ServingState ε) : Prop where
  marks : s'.finishedRequests = s.finishedRequests
  active : s'.streamManager.active = s.streamManager.active

structure Acquires (S : Setup ε) (trackingId : TrackingId) (s s' : ServingState ε) : Prop where
  marks : s'.finishedRequests = s.finishedRequests
  room : s.streamManager.active.card < S.config.maxNumStreams
  active : s'.streamManager.active = insert trackingId s.streamManager.active

section Slots

variable (s : ServingState ε) (prompt : List Char) (maxTokens : ℤ) (trackingId : TrackingId) (clock : Clock)

lemma tryAcquire_cases (config : Config) (manager : StreamManager) (trackingId : TrackingId) :
    manager.tryAcquire config trackingId = (false, manager) ∨
      manager.active.card < config.maxNumStreams ∧
        manager.tryAcquire config trackingId = (true, ⟨insert trackingId manager.active⟩) := by
  rw [StreamManager.tryAcquire]
  split_ifs with h
  · exact .inl rfl
  · exact .inr ⟨not_le.mp h, rfl⟩

lemma generateGates_slots (stream : Bool) :
    (∃ response s', generateGates S s prompt maxTokens stream trackingId clock = (.error response, s') ∧
        SameSlots s s') ∨
      ∃ engineRid s', generateGates S s prompt maxTokens stream trackingId clock = (.ok engineRid, s') ∧
        if stream then Acquires S trackingId s s' else SameSlots s s' := by
  rw [generateGates]
  split
  · exact .inl ⟨_, _, rfl, rfl, rfl⟩
  · split
    · exact .inl ⟨_, _, rfl, rfl, rfl⟩
    · cases stream with
      | false => exact .inr ⟨_, _, rfl, rfl, rfl⟩
      | true =>
        rcases tryAcquire_cases S.config s.streamManager trackingId with hfull | ⟨hroom, htake⟩
        · simp only [hfull]
          exact .inl ⟨_, _, rfl, rfl, rfl⟩
        · simp only [htake]
          exact .inr ⟨_, _, rfl, rfl, hroom, rfl⟩

lemma generateStream_slots :
    (∃ error s', generateStream S s prompt maxTokens trackingId clock = (.error error, s') ∧ SameSlots s s') ∨
      ∃ s', generateStream S s prompt maxTokens trackingId clock = (.ok (s.engine.seqGroupCount, trackingId), s') ∧
        Acquires S trackingId s s' := by
  rw [generateStream]
  split
  · exact .inl ⟨_, _, rfl, rfl, rfl⟩
  · split
    · exact .inl ⟨_, _, rfl, rfl, rfl⟩
    · dsimp only
      rcases tryAcquire_cases S.config s.streamManager trackingId with hfull | ⟨hroom, htake⟩
      · rw [hfull]
        exact .inl ⟨_, _, rfl, rfl, rfl⟩
      · rw [htake]
        exact .inr ⟨_, rfl, rfl, hroom, rfl⟩

lemma generate_slots {s : ServingState ε} {prompt : List Char} {maxTokens : ℤ} {stream : Bool}
    {trackingId : TrackingId} {clock : Clock} (readings : List ℚ) {engineRid : RequestId} {s' : ServingState ε}
    (h : generateGates S s prompt maxTokens stream trackingId clock = (.ok engineRid, s')) :
    let s'' := (generate S s prompt maxTokens stream trackingId clock readings).2
    s''.finishedRequests = s'.finishedRequests ∧
      (s''.streamManager.active = s'.streamManager.active ∨
        stream = true ∧ s''.streamManager.active = s'.streamManager.active.erase trackingId) ∧
      (∀ outputs, (LLMEngine.runUntilDone S readings s'.engine).1 = some (.ok outputs) → stream = true →
        s''.streamManager.active = s'.streamManager.active.erase trackingId) := by
  simp only [generate, h]
  split <;> rename_i he <;> rw [he]
  · exact ⟨rfl, .inl rfl, fun _ h => by cases h⟩
  · exact ⟨rfl, .inl rfl, fun _ h => by cases h⟩
  · cases stream with
    | false => exact ⟨rfl, .inl rfl, fun _ _ h => by cases h⟩
    | true => exact ⟨rfl, .inr ⟨rfl, rfl⟩, fun _ _ _ => rfl⟩

end Slots

lemma apply_reaches {s : ServingState ε} (hw : WellFormed S s.engine.core) (call : Call) :
    Reaches S {} s.engine.core (apply S s call).engine.core :=
  (apply_drives s call).reaches hw

lemma wellFormed_runFrom {s : ServingState ε} (hw : WellFormed S s.engine.core) (calls : List Call) :
    WellFormed S (calls.foldl (apply S) s).engine.core := by
  induction calls generalizing s with
  | nil => exact hw
  | cons call rest ih => exact ih (hw.reaches (apply_reaches hw call))

theorem wellFormed_run (S : Setup ε) (calls : List Call) : WellFormed S (run S calls).engine.core :=
  wellFormed_runFrom (WellFormed.initial S) calls

end ServingLayer

end MiniVllm
