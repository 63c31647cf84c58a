import MiniVllm.Engine.Engine

/-! Conditions on the calls that a run makes to the block manager and to the executor. -/

namespace MiniVllm

namespace RequestQueue

def liveSeqs (qu : RequestQueue) : List Sequence := qu.running.values.flatMap (·.getUnfinishedSeqs)

end RequestQueue

/-- The number of positions of a live sequence whose KV has been computed. -/
def Sequence.kvLen (q : Sequence) : ℕ :=
  if q.status = .prefill then q.prefillCursor else EngineCore.decodePosition q

/-- A condition on the states that steps start from. -/
abbrev StepCondition (ε : Type) := EngineState ε → ℚ → Prop

namespace StepCondition

variable {ε : Type} (C : StepCondition ε) (S : Setup ε)

def Apply (s : EngineState ε) : LLMEngine.Op → Prop
  | .step now => C s now
  | _ => True

def RunFrom : EngineState ε → List LLMEngine.Op → Prop
  | _, [] => True
  | s, op :: ops => C.Apply s op ∧ RunFrom (LLMEngine.apply S s op) ops

def Loop : List ℚ → EngineState ε → Prop
  | [], _ => True
  | now :: readings, s =>
    C s now ∧ match LLMEngine.step S s now with
      | (.error _, _) => True
      | (.ok _, s) => (s.queue.numWaiting = 0 ∧ s.queue.numRunning = 0) ∨ Loop readings s

def Run (ops : List LLMEngine.Op) : Prop := C.RunFrom S (LLMEngine.initial S) ops

section Decidable

variable [∀ s now, Decidable (C s now)]

instance (s : EngineState ε) : (op : LLMEngine.Op) → Decidable (C.Apply s op)
  | .step now => inferInstanceAs (Decidable (C s now))
  | .addRequest _ _ _ => isTrue trivial
  | .cancelRequest _ => isTrue trivial
  | .checkTimeouts _ => isTrue trivial

instance decidableRunFrom : (s : EngineState ε) → (ops : List LLMEngine.Op) → Decidable (C.RunFrom S s ops)
  | _, [] => isTrue trivial
  | s, op :: ops =>
    have := decidableRunFrom (LLMEngine.apply S s op) ops
    inferInstanceAs (Decidable (_ ∧ _))

instance decidableLoop : (readings : List ℚ) → (s : EngineState ε) → Decidable (C.Loop S readings s)
  | [], _ => isTrue trivial
  | now :: readings, s =>
    have : Decidable (match LLMEngine.step S s now with
        | (.error _, _) => True
        | (.ok _, s) => (s.queue.numWaiting = 0 ∧ s.queue.numRunning = 0) ∨ C.Loop S readings s) :=
      match LLMEngine.step S s now with
      | (.error _, _) => isTrue trivial
      | (.ok _, s) =>
        have := decidableLoop readings s
        inferInstanceAs (Decidable (_ ∨ _))
    inferInstanceAs (Decidable (_ ∧ _))

instance (ops : List LLMEngine.Op) : Decidable (C.Run S ops) := inferInstanceAs (Decidable (C.RunFrom S _ ops))

end Decidable

end StepCondition

def Succeeds {ε : Type} (S : Setup ε) : StepCondition ε := fun s now => (LLMEngine.step S s now).1.toBool = true

instance {ε : Type} (S : Setup ε) (s : EngineState ε) (now : ℚ) : Decidable (Succeeds S s now) :=
  inferInstanceAs (Decidable (_ = true))

structure CallCondition (ε : Type) where
  probe : RequestQueue → BlockManager ε → SequenceGroup → Prop := fun _ _ _ => True
  admission : RequestQueue → BlockManager ε → SequenceGroup → Prop := fun _ _ _ => True
  ensure : RequestQueue → BlockManager ε → Sequence → ℕ → Prop := fun _ _ _ _ => True
  batch : RequestQueue → BlockManager ε → List Sequence → List Sequence → Prop := fun _ _ _ _ => True

namespace CallCondition

variable {ε : Type}

def all (c d : CallCondition ε) : CallCondition ε where
  probe qu bm sg := c.probe qu bm sg ∧ d.probe qu bm sg
  admission qu bm sg := c.admission qu bm sg ∧ d.admission qu bm sg
  ensure qu bm q position := c.ensure qu bm q position ∧ d.ensure qu bm q position
  batch qu bm prefill decode := c.batch qu bm prefill decode ∧ d.batch qu bm prefill decode

variable (c : CallCondition ε) (S : Setup ε)

def Admission (l : Scheduler.BudgetLoop ε) (sg : SequenceGroup) : Prop :=
  (0 < l.remainingSeqBudget → c.probe l.queue l.blockManager sg) ∧
    (Scheduler.admissionDecision S l sg = .admission → c.admission l.queue l.blockManager sg)

def Schedule (queue : RequestQueue) (bm : BlockManager ε) : Prop :=
  match Scheduler.beforeAdmission S queue bm with
  | (.error _, _, _) => True
  | (.ok (l, visited, _), _, _) => ForEachAll (c.Admission S) (Scheduler.admitWaiting S) l visited

def Execute (queue : RequestQueue) (bm : BlockManager ε) (prefill decode : List Sequence) : Prop :=
  ForEachAll (fun bm call => c.ensure queue bm call.1 call.2) (EngineCore.ensureStep S) bm
      (EngineCore.ensureCalls S.config prefill decode) ∧
    match forEach (EngineCore.ensureStep S) bm (EngineCore.ensureCalls S.config prefill decode) with
    | (.error _, _) => True
    | (.ok _, bm) => c.batch queue bm prefill decode

/-- Every call that one engine step makes meets the condition. -/
def Step (s : EngineState ε) (now : ℚ) : Prop :=
  let s := EngineCore.beginStep S s now
  c.Schedule S s.queue s.blockManager ∧
    match Scheduler.schedule S s.queue s.blockManager with
    | (.error _, _, _) => True
    | (.ok result, queue, bm) =>
      let prefill := EngineCore.prefillSeqs queue result
      let decode := EngineCore.decodeSeqs queue result
      (prefill.isEmpty && decode.isEmpty) = false → c.Execute S queue bm prefill decode

abbrev Apply (s : EngineState ε) (op : LLMEngine.Op) : Prop := StepCondition.Apply (c.Step S) s op

abbrev RunFrom (s : EngineState ε) (ops : List LLMEngine.Op) : Prop := StepCondition.RunFrom (c.Step S) S s ops

abbrev Run (ops : List LLMEngine.Op) : Prop := StepCondition.Run (c.Step S) S ops

section Decidable

variable [∀ qu bm sg, Decidable (c.probe qu bm sg)] [∀ qu bm sg, Decidable (c.admission qu bm sg)]
  [∀ qu bm q position, Decidable (c.ensure qu bm q position)]
  [∀ qu bm prefill decode, Decidable (c.batch qu bm prefill decode)]

instance (l : Scheduler.BudgetLoop ε) (sg : SequenceGroup) : Decidable (c.Admission S l sg) :=
  inferInstanceAs (Decidable (_ ∧ _))

instance (queue : RequestQueue) (bm : BlockManager ε) : Decidable (c.Schedule S queue bm) :=
  have : Decidable (match Scheduler.beforeAdmission S queue bm with
      | (.error _, _, _) => True
      | (.ok (l, visited, _), _, _) =>
        ForEachAll (c.Admission S) (Scheduler.admitWaiting S) l visited) :=
    match Scheduler.beforeAdmission S queue bm with
    | (.error _, _, _) => isTrue trivial
    | (.ok (l, visited, _), _, _) => ForEachAll.decidable _ _ l visited
  this

instance (queue : RequestQueue) (bm : BlockManager ε) (prefill decode : List Sequence) :
    Decidable (c.Execute S queue bm prefill decode) :=
  have : Decidable (match forEach (EngineCore.ensureStep S) bm
        (EngineCore.ensureCalls S.config prefill decode) with
      | (.error _, _) => True
      | (.ok _, bm) => c.batch queue bm prefill decode) :=
    match forEach (EngineCore.ensureStep S) bm (EngineCore.ensureCalls S.config prefill decode) with
    | (.error _, _) => isTrue trivial
    | (.ok _, bm) => inferInstanceAs (Decidable (c.batch queue bm prefill decode))
  inferInstanceAs (Decidable (_ ∧ _))

instance (s : EngineState ε) (now : ℚ) : Decidable (c.Step S s now) :=
  have : Decidable (match Scheduler.schedule S (EngineCore.beginStep S s now).queue
        (EngineCore.beginStep S s now).blockManager with
      | (.error _, _, _) => True
      | (.ok result, queue, bm) =>
        let prefill := EngineCore.prefillSeqs queue result
        let decode := EngineCore.decodeSeqs queue result
        (prefill.isEmpty && decode.isEmpty) = false → c.Execute S queue bm prefill decode) :=
    match Scheduler.schedule S (EngineCore.beginStep S s now).queue
        (EngineCore.beginStep S s now).blockManager with
    | (.error _, _, _) => isTrue trivial
    | (.ok result, queue, bm) =>
      inferInstanceAs (Decidable (_ = false → c.Execute S queue bm (EngineCore.prefillSeqs queue result)
        (EngineCore.decodeSeqs queue result)))
  inferInstanceAs (Decidable (_ ∧ _))

end Decidable

end CallCondition

end MiniVllm
