import MiniVllm.EngineProofs.Steps

/-! The waiting pool keeps its requests in the order of their arrival, and every live group its arrival time. -/

namespace MiniVllm

open EngineCore

variable {ε : Type} {S : Setup ε} {c : CallCondition ε}

namespace Dict

variable {κ ν : Type} [DecidableEq κ]

lemma keys_set_new (d : Dict κ ν) {k : κ} (v : ν) (h : d.get? k = none) : (d.set k v).keys = d.keys ++ [k] := by
  obtain ⟨es, hn⟩ := d
  simp only [keys, set, get?] at h ⊢
  clear hn
  induction es with
  | nil => rfl
  | cons e rest ih =>
    obtain ⟨i, w⟩ := e
    by_cases hi : i = k
    · simp [lookup, hi] at h
    · simp only [lookup, hi, if_false] at h
      simp only [setEntries, hi, if_false, List.map_cons, ih h, List.cons_append]

lemma keys_pop_sublist (d : Dict κ ν) (k : κ) : (d.pop k).keys.Sublist d.keys := List.filter_sublist.map _

end Dict

lemma QueueFormed.waiting_ids {qu : RequestQueue} {n : ℕ} (h : QueueFormed qu n) :
    qu.waiting.values.map (·.requestId) = qu.waiting.keys := by
  rw [Dict.values, List.map_map, Dict.keys]
  refine List.map_congr_left fun e he => ?_
  exact (h.waiting e.1 e.2 ((Dict.mem_entries _ _ _).mp he)).1

def arrivalsOf (ops : List LLMEngine.Op) : List ℚ :=
  ops.filterMap (fun
    | .addRequest _ _ now => some now
    | _ => none)

structure InLine (arrivals : List ℚ) (qu : RequestQueue) : Prop where
  increasing : qu.waiting.keys.Pairwise (· < ·)
  arrived : ∀ rid sg, qu.waiting.get? rid = some sg ∨ qu.running.get? rid = some sg →
    arrivals[rid]? = some sg.arrivalTime

namespace InLine

variable {arrivals : List ℚ} {s s' : CoreState ε}

lemma of_sublist {qu qu' : RequestQueue} (h : InLine arrivals qu) (hw : qu'.waiting.keys.Sublist qu.waiting.keys)
    (hlive : ∀ rid sg, qu'.waiting.get? rid = some sg ∨ qu'.running.get? rid = some sg →
      ∃ sg₀, (qu.waiting.get? rid = some sg₀ ∨ qu.running.get? rid = some sg₀) ∧ sg.arrivalTime = sg₀.arrivalTime) :
    InLine arrivals qu' := by
  refine ⟨h.increasing.sublist hw, fun rid sg hg => ?_⟩
  obtain ⟨sg₀, hg₀, htime⟩ := hlive rid sg hg
  rw [htime]
  exact h.arrived rid sg₀ hg₀

lemma step (hw : WellFormed S s) (h : InLine arrivals s.queue) (ht : Transition S c s s')
    (hn : s'.seqGroupCount = s.seqGroupCount) : InLine arrivals s'.queue := by
  cases ht with
  | submit => exact absurd hn (Nat.succ_ne_self _)
  | cleanup => exact h
  | ensure => exact h
  | refile => exact ⟨h.increasing, h.arrived⟩
  | retire sg q status hrun hseqs =>
    refine h.of_sublist (List.Sublist.refl s.queue.waiting.keys) ?_
    rintro rid g (hg | hg)
    · exact ⟨g, Or.inl hg, rfl⟩
    · exact ⟨g, Or.inr (Dict.get?_pop_some hg), rfl⟩
  | withdraw sg hwait =>
    apply h.of_sublist (Dict.keys_pop_sublist _ _)
    rintro rid g (hg | hg)
    · exact ⟨g, Or.inl (Dict.get?_pop_some hg), rfl⟩
    · exact ⟨g, Or.inr hg, rfl⟩
  | reject sg hwait =>
    apply h.of_sublist (Dict.keys_pop_sublist _ _)
    rintro rid g (hg | hg)
    · exact ⟨g, Or.inl (Dict.get?_pop_some hg), rfl⟩
    · exact ⟨g, Or.inr hg, rfl⟩
  | admission sg hwait =>
    apply h.of_sublist (Dict.keys_pop_sublist _ _)
    rintro rid g (hg | hg)
    · exact ⟨g, Or.inl (Dict.get?_pop_some hg), rfl⟩
    · rcases Dict.get?_set_some hg with ⟨rfl, rfl⟩ | hg
      · exact ⟨sg, Or.inl hwait, rfl⟩
      · exact ⟨g, Or.inr hg, rfl⟩
  | batch prefill decode hready =>
    obtain ⟨r, queue, bm, hbatch, hspec⟩ := hw.runBatch_cases hready
    simp only [hbatch]
    cases hspec with
    | failed => exact h
    | done output x _ hexec hwt hfn hrj hrun =>
      apply h.of_sublist
      · rw [hwt]
      · rintro rid g (hg | hg)
        · rw [hwt] at hg
          exact ⟨g, Or.inl hg, rfl⟩
        · rw [hrun] at hg
          obtain ⟨g₀, hg₀, rfl⟩ := Option.map_eq_some_iff.mp hg
          exact ⟨g₀, Or.inr hg₀, rfl⟩

lemma reaches (hw : WellFormed S s) (h : InLine arrivals s.queue) (hr : Reaches S c s s')
    (hn : s'.seqGroupCount = s.seqGroupCount) : InLine arrivals s'.queue := by
  induction hr with
  | refl => exact h
  | tail hr ht ih =>
    have h₁ := Reaches.seqGroupCount_le hr
    have h₂ := Reaches.seqGroupCount_le (Reaches.single S c ht)
    exact (ih (by omega)).step (hw.reaches hr) ht (by omega)

lemma submit {qu : RequestQueue} {n : ℕ} (hq : QueueFormed qu n) (h : InLine arrivals qu) (hn : n = arrivals.length)
    (sg : SequenceGroup) (hid : sg.requestId = n) : InLine (arrivals ++ [sg.arrivalTime]) (qu.add sg) := by
  have hnew : qu.waiting.get? sg.requestId = none := by
    by_contra hc
    obtain ⟨g, hg⟩ := Option.ne_none_iff_exists'.mp hc
    have hlt := (hq.waiting _ g hg).2.1
    rw [hid] at hlt
    exact absurd hlt (lt_irrefl n)
  refine ⟨?_, fun rid g hg => ?_⟩
  · rw [RequestQueue.add, Dict.keys_set_new _ _ hnew, List.pairwise_append]
    refine ⟨h.increasing, List.pairwise_singleton _ _, fun rid hrid other hother => ?_⟩
    obtain ⟨g, hg⟩ := Option.ne_none_iff_exists'.mp ((qu.waiting.mem_keys rid).mp hrid)
    rw [List.mem_singleton.mp hother, hid]
    exact (hq.waiting rid g hg).2.1
  · have hold : qu.waiting.get? rid = some g ∨ qu.running.get? rid = some g →
        (arrivals ++ [sg.arrivalTime])[rid]? = some g.arrivalTime := by
      intro hg
      have harr := h.arrived rid g hg
      rw [List.getElem?_append_left (List.getElem?_eq_some_iff.mp harr).1, harr]
    rcases hg with hg | hg
    · rcases Dict.get?_set_some hg with ⟨rfl, rfl⟩ | hg
      · rw [hid, hn, List.getElem?_concat_length]
      · exact hold (Or.inl hg)
    · exact hold (Or.inr hg)

end InLine

lemma LLMEngine.apply_count (S : Setup ε) (s : EngineState ε) (op : LLMEngine.Op) :
    (LLMEngine.apply S s op).seqGroupCount = s.seqGroupCount + (arrivalsOf [op]).length := by
  cases op with
  | addRequest prompt maxNewTokens now => rfl
  | step now => exact LLMEngine.step_count s now
  | cancelRequest rid => exact cancelRequest_seqGroupCount S s rid
  | checkTimeouts now => exact checkTimeouts_seqGroupCount S s now

lemma arrivalsOf_append (ops more : List LLMEngine.Op) : arrivalsOf (ops ++ more) = arrivalsOf ops ++ arrivalsOf more :=
  List.filterMap_append

theorem inLine_run (S : Setup ε) (ops : List LLMEngine.Op) :
    (LLMEngine.run S ops).seqGroupCount = (arrivalsOf ops).length ∧
      InLine (arrivalsOf ops) (LLMEngine.run S ops).queue := by
  induction ops using List.reverseRecOn with
  | nil =>
    refine ⟨rfl, List.Pairwise.nil, fun rid sg h => ?_⟩
    rcases h with h | h <;> cases h
  | append_singleton ops op ih =>
    obtain ⟨hcount, hline⟩ := ih
    have hw := wellFormed_run S ops
    rw [LLMEngine.run_concat, arrivalsOf_append, List.length_append, LLMEngine.apply_count, hcount]
    refine ⟨rfl, ?_⟩
    have hkeep : arrivalsOf [op] = [] → InLine (arrivalsOf ops ++ arrivalsOf [op])
        (LLMEngine.apply S (LLMEngine.run S ops) op).queue := by
      intro hnil
      have hsame := LLMEngine.apply_count S (LLMEngine.run S ops) op
      rw [hnil] at hsame ⊢
      rw [List.append_nil]
      exact hline.reaches hw (apply_refines hw (runFrom_true _ [op]).1) hsame
    cases op with
    | addRequest prompt maxNewTokens now => exact hline.submit hw.queue hcount ⟨_, _, _, _, _⟩ rfl
    | step now => exact hkeep rfl
    | cancelRequest rid => exact hkeep rfl
    | checkTimeouts now => exact hkeep rfl

end MiniVllm
