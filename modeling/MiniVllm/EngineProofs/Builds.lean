import MiniVllm.EngineProofs.Steps

/-! The call of `build` that a step makes. -/

namespace MiniVllm

open EngineCore Scheduler Scheduler.BudgetLoop

variable {ε : Type} {S : Setup ε}

def EngineCore.buildCall (S : Setup ε) (s : EngineState ε) (now : ℚ) :
    Option (ScheduleResult × Except Exn ModelInput) :=
  match Scheduler.schedule S (beginStep S s now).queue (beginStep S s now).blockManager with
  | (.error _, _, _) => none
  | (.ok result, queue, bm) =>
    let prefill := prefillSeqs queue result
    let decode := decodeSeqs queue result
    if prefill.isEmpty && decode.isEmpty then none
    else
      match forEach (ensureStep S) bm (ensureCalls S.config prefill decode) with
      | (.error _, _) => none
      | (.ok _, bm) => some (result, ModelInputBuilder.build S.config bm prefill decode)

structure Builds (S : Setup ε) (s : EngineState ε) (now : ℚ) (l l' : BudgetLoop ε) (visited : List SequenceGroup)
    (bm : BlockManager ε) (result : ScheduleResult) (x : Except Exn ModelInput) : Prop where
  schedules : Schedules S (beginStep S s now).core l l' visited
  report : result = l'.report l.queue.decodes.length
  ready : BatchReady S.config l'.queue bm (prefillSeqs l'.queue result) (decodeSeqs l'.queue result)
  built : x = .ok (batchInput S.config bm (prefillSeqs l'.queue result) (decodeSeqs l'.queue result))

theorem buildCall_spec {s : EngineState ε} (h : WellFormed S s.core) {now : ℚ} {result : ScheduleResult}
    {x : Except Exn ModelInput} (hcall : buildCall S s now = some (result, x)) :
    ∃ l l' visited bm, Builds S s now l l' visited bm result x := by
  have hwb := beginStep_wellFormed h now
  obtain ⟨l, l', visited, hs⟩ := schedule_spec hwb
  have hresult : Scheduler.schedule S (beginStep S s now).queue (beginStep S s now).blockManager =
      (.ok (l'.report l.queue.decodes.length), l'.queue, l'.blockManager) := hs.result
  simp only [buildCall, hresult] at hcall
  split_ifs at hcall with hempty
  have hbatch := (hs.visits_execute hwb ((Bool.not_eq_true _).mp hempty)).2
  cases hloop : forEach (ensureStep S) l'.blockManager
      (ensureCalls S.config (prefillSeqs l'.queue (l'.report l.queue.decodes.length))
        (decodeSeqs l'.queue (l'.report l.queue.decodes.length))) with
  | mk r bm =>
    rw [hloop] at hbatch
    simp only [hloop] at hcall
    cases r with
    | error err => cases hcall
    | ok u =>
      obtain ⟨-, -, hready⟩ := hbatch
      cases hcall
      exact ⟨l, l', visited, bm, hs, rfl, hready, build_eq (hs.wellFormed hwb).queue hready⟩

end MiniVllm
