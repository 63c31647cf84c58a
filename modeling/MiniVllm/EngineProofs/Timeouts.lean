import MiniVllm.EngineProofs.Abort
import MiniVllm.EngineProofs.Frames

/-! What a timeout check does to each request. -/

namespace MiniVllm

open EngineCore

variable {ε : Type} {S : Setup ε}

def Expires (S : Setup ε) (qu : RequestQueue) (now : ℚ) (rid : RequestId) : Prop :=
  ∃ sg, (qu.waiting.get? rid = some sg ∨ qu.running.get? rid = some sg) ∧
    now - sg.arrivalTime > S.config.requestTimeoutS

structure Dead (qu : RequestQueue) (rid : RequestId) : Prop where
  waiting : qu.waiting.get? rid = none
  running : qu.running.get? rid = none

structure Lost (qu : RequestQueue) (rid : RequestId) : Prop extends Dead qu rid where
  unfinished : ∀ sg, qu.finished.get? rid = some sg → ∀ q ∈ sg.seqs, q.status ≠ .finished

instance (qu : RequestQueue) (rid : RequestId) : Decidable (Dead qu rid) :=
  decidable_of_iff (qu.waiting.get? rid = none ∧ qu.running.get? rid = none)
    ⟨fun h => ⟨h.1, h.2⟩, fun h => ⟨h.waiting, h.running⟩⟩

lemma QueueFormed.dead_of_finished {qu : RequestQueue} {n : ℕ} (hq : QueueFormed qu n) {rid : RequestId}
    {sg : SequenceGroup} (hsg : qu.finished.get? rid = some sg) : Dead qu rid := by
  obtain ⟨hw, hr⟩ := hq.not_live_of_finished hsg
  exact ⟨hw, hr⟩

lemma QueueFormed.dead_of_rejected {qu : RequestQueue} {n : ℕ} (hq : QueueFormed qu n) {rid : RequestId}
    {sg : SequenceGroup} (hsg : qu.rejected.get? rid = some sg) : Dead qu rid := by
  obtain ⟨hw, hr⟩ := hq.not_live_of_rejected (by rw [hsg]; simp)
  exact ⟨hw, hr⟩

structure SameAt (qu qu' : RequestQueue) (rid : RequestId) : Prop where
  waiting : qu'.waiting.get? rid = qu.waiting.get? rid
  running : qu'.running.get? rid = qu.running.get? rid
  finished : qu'.finished.get? rid = qu.finished.get? rid
  rejected : qu'.rejected.get? rid = qu.rejected.get? rid

namespace SameAt

variable {qu qu' qu'' : RequestQueue} {rid : RequestId}

lemma refl (qu : RequestQueue) (rid : RequestId) : SameAt qu qu rid := ⟨rfl, rfl, rfl, rfl⟩

lemma trans (h : SameAt qu qu' rid) (g : SameAt qu' qu'' rid) : SameAt qu qu'' rid :=
  ⟨g.waiting.trans h.waiting, g.running.trans h.running, g.finished.trans h.finished, g.rejected.trans h.rejected⟩

lemma dead (h : SameAt qu qu' rid) (hd : Dead qu rid) : Dead qu' rid :=
  ⟨h.waiting.trans hd.waiting, h.running.trans hd.running⟩

lemma lost (h : SameAt qu qu' rid) (hl : Lost qu rid) : Lost qu' rid := by
  refine ⟨h.dead hl.toDead, fun sg hg => ?_⟩
  rw [h.finished] at hg
  exact hl.unfinished sg hg

lemma runningSeq (h : SameAt qu qu' rid) : qu'.runningSeq rid = qu.runningSeq rid := by
  rw [RequestQueue.runningSeq, RequestQueue.runningSeq, h.running]

end SameAt

section Mark

variable (qu : RequestQueue) (sg : SequenceGroup) {rid : RequestId}

lemma sameAt_markFinished (h : rid ≠ sg.requestId) : SameAt qu (qu.markFinished sg) rid :=
  ⟨rfl, qu.running.get?_pop_ne h, qu.finished.get?_set_ne sg h, rfl⟩

lemma sameAt_withdraw (h : rid ≠ sg.requestId) : SameAt qu (qu.withdraw sg) rid :=
  ⟨qu.waiting.get?_pop_ne h, rfl, qu.finished.get?_set_ne sg h, rfl⟩

end Mark

section TimeoutGroup

variable {s : EngineState ε} (hw : WellFormed S s.core) {item : RequestId × Bool} (hin : InPool s.queue item)

include hw hin

lemma timeoutGroup_other {rid : RequestId} (hne : rid ≠ item.1) :
    SameAt s.queue (timeoutGroup S s item).queue rid := by
  have hspec := timeoutGroup_spec hw hin
  generalize timeoutGroup S s item = s' at hspec ⊢
  cases hspec with
  | running sg q hr hq hl => exact sameAt_markFinished _ _ hne
  | waiting sg hg hs => exact sameAt_withdraw _ _ hne

lemma timeoutGroup_own : Lost (timeoutGroup S s item).queue item.1 := by
  have hspec := timeoutGroup_spec hw hin
  generalize timeoutGroup S s item = s' at hspec ⊢
  cases hspec with
  | running sg q hr hq hl =>
    refine ⟨⟨hw.queue.waiting_of_running hr, s.queue.running.get?_pop_self _⟩, fun g hg q' hq' => ?_⟩
    obtain rfl : _ = g := Option.some.inj ((s.queue.finished.get?_set_self _ _).symm.trans hg)
    obtain rfl := List.mem_singleton.mp hq'
    simp
  | waiting sg hg hs =>
    refine ⟨⟨s.queue.waiting.get?_pop_self _, (hw.queue.only_waiting hg).1⟩, fun g hg' q' hq' => ?_⟩
    obtain rfl : sg = g := Option.some.inj ((s.queue.finished.get?_set_self _ _).symm.trans hg')
    rw [hs] at hq'
    cases hq'

end TimeoutGroup

lemma timeouts_at {s : EngineState ε} (hw : WellFormed S s.core) (items : List (RequestId × Bool))
    (hnd : (items.map Prod.fst).Nodup) (hin : ∀ item ∈ items, InPool s.queue item) (rid : RequestId) :
    (rid ∉ items.map Prod.fst → SameAt s.queue (items.foldl (timeoutGroup S) s).queue rid) ∧
      (rid ∈ items.map Prod.fst → Lost (items.foldl (timeoutGroup S) s).queue rid) := by
  induction items generalizing s with
  | nil => exact ⟨fun _ => .refl _ _, fun h => by cases h⟩
  | cons item rest ih =>
    simp only [List.map_cons, List.nodup_cons] at hnd
    have hitem := hin item List.mem_cons_self
    have hrest : ∀ other ∈ rest, InPool (timeoutGroup S s item).queue other := by
      intro other ho
      apply timeoutGroup_inPool hw hitem _ (hin other (List.mem_cons_of_mem item ho))
      intro he
      apply hnd.1
      rw [← he]
      exact List.mem_map_of_mem ho
    obtain ⟨hsame, hlost⟩ := ih (hw.reaches (timeoutGroup_refines (c := {}) hw hitem)) hnd.2 hrest
    rw [List.map_cons, List.mem_cons, List.foldl_cons]
    constructor
    · intro hnot
      rw [not_or] at hnot
      exact (timeoutGroup_other hw hitem hnot.1).trans (hsame hnot.2)
    · rintro (rfl | hm)
      · exact (hsame hnd.1).lost (timeoutGroup_own hw hitem)
      · exact hlost hm

lemma mem_expired_iff {pool : Dict RequestId SequenceGroup} {now : ℚ} {rid : RequestId}
    (hid : ∀ rid sg, pool.get? rid = some sg → sg.requestId = rid) :
    rid ∈ expired S now pool ↔ ∃ sg, pool.get? rid = some sg ∧ now - sg.arrivalTime > S.config.requestTimeoutS := by
  simp only [expired, List.mem_map, List.mem_filter, decide_eq_true_eq]
  constructor
  · rintro ⟨sg, ⟨hm, ht⟩, rfl⟩
    obtain ⟨k, hk⟩ := (pool.mem_values sg).mp hm
    exact ⟨sg, by rw [hid k sg hk]; exact hk, ht⟩
  · rintro ⟨sg, hg, ht⟩
    exact ⟨sg, ⟨(pool.mem_values sg).mpr ⟨rid, hg⟩, ht⟩, hid rid sg hg⟩

def expiredIds (S : Setup ε) (qu : RequestQueue) (now : ℚ) : List RequestId :=
  expired S now qu.running ++ expired S now qu.waiting

lemma map_fst_items (qu : RequestQueue) (now : ℚ) :
    ((expired S now qu.running).map (·, true) ++ (expired S now qu.waiting).map (·, false)).map Prod.fst =
      expiredIds S qu now := by
  simp [expiredIds, List.map_map, Function.comp_def]

lemma mem_expiredIds {s : EngineState ε} (hw : WellFormed S s.core) {now : ℚ} {rid : RequestId} :
    rid ∈ expiredIds S s.queue now ↔ Expires S s.queue now rid := by
  have hrid : ∀ rid sg, s.queue.running.get? rid = some sg → sg.requestId = rid :=
    fun rid sg hg => (hw.queue.running rid sg hg).1
  have hwid : ∀ rid sg, s.queue.waiting.get? rid = some sg → sg.requestId = rid :=
    fun rid sg hg => (hw.queue.waiting rid sg hg).1
  rw [expiredIds, List.mem_append, mem_expired_iff hrid, mem_expired_iff hwid, ← exists_or]
  refine exists_congr fun sg => ?_
  rw [← or_and_right, or_comm]

lemma checkTimeouts_outputs (s : EngineState ε) (now : ℚ) : (checkTimeouts S s now).outputs = s.outputs := by
  obtain ⟨queue, bm, reports, timeouts, h⟩ := checkTimeouts_frame S s now
  rw [h]

theorem checkTimeouts_at {s : EngineState ε} (hw : WellFormed S s.core) (now : ℚ) (rid : RequestId) :
    (¬ Expires S s.queue now rid → SameAt s.queue (checkTimeouts S s now).queue rid) ∧
      (Expires S s.queue now rid → Lost (checkTimeouts S s now).queue rid) := by
  obtain ⟨hnd, hin⟩ := expired_items hw now
  have hat := timeouts_at hw _ hnd hin rid
  rw [map_fst_items, mem_expiredIds hw] at hat
  exact hat

end MiniVllm
