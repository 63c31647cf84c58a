import MiniVllm.EngineProofs.Refinement
import MiniVllm.EngineProofs.Timeouts

/-! A timeout check moves the requests that expire, frees their tables and leaves the rest. -/

namespace MiniVllm

open EngineCore

variable {ε : Type} {S : Setup ε}

def timedOut (q : Sequence) : Sequence := if q.finished then q else { q with status := .timeout }

structure MovedAt (qu qu' : RequestQueue) (rid : RequestId) : Prop extends Dead qu' rid where
  filed : ∀ sg, qu.waiting.get? rid = some sg ∨ qu.running.get? rid = some sg →
    qu'.finished.get? rid = some (sg.mapSeqs timedOut)

lemma MovedAt.before {qu qu₁ qu' : RequestQueue} {rid : RequestId} (h : MovedAt qu₁ qu' rid) (hs : SameAt qu qu₁ rid) :
    MovedAt qu qu' rid := by
  refine ⟨h.toDead, fun sg hg => h.filed sg ?_⟩
  rw [hs.waiting, hs.running]
  exact hg

lemma MovedAt.after {qu qu₁ qu' : RequestQueue} {rid : RequestId} (h : MovedAt qu qu₁ rid) (hs : SameAt qu₁ qu' rid) :
    MovedAt qu qu' rid := by
  refine ⟨hs.dead h.toDead, fun sg hg => ?_⟩
  rw [hs.finished]
  exact h.filed sg hg

lemma tables_free_ne (bm : BlockManager ε) {sid sid' : SeqId} (h : sid' ≠ sid) :
    (bm.free S.blockParams sid).tables.get? sid' = bm.tables.get? sid' := by
  rw [BlockManager.free]
  split
  · rfl
  · exact Dict.get?_pop_ne _ h

section TimeoutGroup

variable {s : EngineState ε} (hw : WellFormed S s.core) {item : RequestId × Bool} (hin : InPool s.queue item)

include hw hin

lemma timeoutGroup_moved : MovedAt s.queue (timeoutGroup S s item).queue item.1 := by
  have hdead := (timeoutGroup_own hw hin).toDead
  have hspec := timeoutGroup_spec hw hin
  generalize timeoutGroup S s item = s' at hdead hspec ⊢
  cases hspec with
  | running sg q hr hq hl =>
    refine ⟨hdead, fun g hg => ?_⟩
    have hwait : s.queue.waiting.get? sg.requestId = none := hw.queue.waiting_of_running hr
    obtain rfl : sg = g := by
      rcases hg with hg | hg
      · rw [hwait] at hg
        cases hg
      · exact Option.some.inj (hr.symm.trans hg)
    have hseqs : sg.mapSeqs timedOut = { sg with seqs := [{ q with status := .timeout }] } := by
      simp [SequenceGroup.mapSeqs, hq, timedOut, hl.phase.not_finished]
    rw [hseqs]
    exact s.queue.finished.get?_set_self _ _
  | waiting sg hwait hseqs =>
    refine ⟨hdead, fun g hg => ?_⟩
    obtain rfl : sg = g := by
      rcases hg with hg | hg
      · exact Option.some.inj (hwait.symm.trans hg)
      · have hrun : s.queue.running.get? sg.requestId = none := (hw.queue.only_waiting hwait).1
        rw [hrun] at hg
        cases hg
    have hsame : sg.mapSeqs timedOut = sg := by
      rw [SequenceGroup.mapSeqs, hseqs, List.map_nil, ← hseqs]
    rw [hsame]
    exact s.queue.finished.get?_set_self _ _

lemma timeoutGroup_counts : (timeoutGroup S s item).metrics.timeoutRequests = s.metrics.timeoutRequests + 1 := by
  have hspec := timeoutGroup_spec hw hin
  generalize timeoutGroup S s item = s' at hspec ⊢
  cases hspec with
  | running sg q hr hq hl => rfl
  | waiting sg hwait hseqs => rfl

lemma timeoutGroup_tables (sid : SeqId) : (timeoutGroup S s item).blockManager.tables.get? sid =
    if sid.request = item.1 then none else s.blockManager.tables.get? sid := by
  have hw' := hw.reaches (timeoutGroup_refines (c := {}) hw hin)
  have hdead := (timeoutGroup_own hw hin).toDead
  by_cases hsid : sid.request = item.1
  · rw [if_pos hsid]
    by_contra hne
    have hcontains : (timeoutGroup S s item).blockManager.tables.contains sid := by
      rw [Dict.contains, Option.isSome_iff_ne_none]
      exact hne
    obtain ⟨q, hq, -⟩ := (hw'.tables sid).mp hcontains
    have hrun := hdead.running
    simp only [EngineState.core, RequestQueue.runningSeq, hsid, hrun] at hq
    cases hq
  · rw [if_neg hsid]
    have hspec := timeoutGroup_spec hw hin
    generalize timeoutGroup S s item = s' at hspec ⊢
    cases hspec with
    | running sg q hr hq hl =>
      have hne : sid ≠ q.seqId := by
        rintro rfl
        exact hsid (congrArg SeqId.request hl.seqId)
      exact tables_free_ne s.blockManager hne
    | waiting sg hwait hseqs => rfl

end TimeoutGroup

structure SweptAt (s s' : EngineState ε) (rids : List RequestId) : Prop where
  moved : ∀ rid ∈ rids, MovedAt s.queue s'.queue rid
  counted : s'.metrics.timeoutRequests = s.metrics.timeoutRequests + rids.length
  tables : ∀ sid, s'.blockManager.tables.get? sid =
    if sid.request ∈ rids then none else s.blockManager.tables.get? sid

lemma timeouts_swept {s : EngineState ε} (hw : WellFormed S s.core) (items : List (RequestId × Bool))
    (hnd : (items.map Prod.fst).Nodup) (hin : ∀ item ∈ items, InPool s.queue item) :
    SweptAt s (items.foldl (timeoutGroup S) s) (items.map Prod.fst) := by
  induction items generalizing s with
  | nil => exact ⟨fun _ h => (List.not_mem_nil h).elim, rfl, fun sid => by simp⟩
  | cons item rest ih =>
    simp only [List.map_cons, List.nodup_cons] at hnd
    have hitem := hin item List.mem_cons_self
    have hw₁ := hw.reaches (timeoutGroup_refines (c := {}) hw hitem)
    have hrest : ∀ other ∈ rest, InPool (timeoutGroup S s item).queue other := by
      intro other ho
      apply timeoutGroup_inPool hw hitem _ (hin other (List.mem_cons_of_mem item ho))
      intro he
      apply hnd.1
      rw [← he]
      exact List.mem_map_of_mem ho
    have hswept := ih hw₁ hnd.2 hrest
    rw [List.map_cons, List.foldl_cons]
    refine ⟨fun rid hrid => ?_, ?_, fun sid => ?_⟩
    · rcases List.mem_cons.mp hrid with rfl | hrid
      · exact (timeoutGroup_moved hw hitem).after ((timeouts_at hw₁ rest hnd.2 hrest item.1).1 hnd.1)
      · have hne : rid ≠ item.1 := fun he => hnd.1 (he ▸ hrid)
        exact (hswept.moved rid hrid).before (timeoutGroup_other hw hitem hne)
    · rw [hswept.counted, timeoutGroup_counts hw hitem, List.length_cons]
      omega
    · rw [hswept.tables, timeoutGroup_tables hw hitem]
      simp only [List.mem_cons]
      by_cases hfirst : sid.request = item.1 <;> by_cases hlater : sid.request ∈ rest.map Prod.fst <;>
        simp [hfirst, hlater]

structure ExactSweep (S : Setup ε) (now : ℚ) (s s' : EngineState ε) : Prop where
  none_left : ∀ rid sg, s'.queue.waiting.get? rid = some sg ∨ s'.queue.running.get? rid = some sg →
    now - sg.arrivalTime ≤ S.config.requestTimeoutS
  moved : ∀ rid sg, s.queue.waiting.get? rid = some sg ∨ s.queue.running.get? rid = some sg →
    now - sg.arrivalTime > S.config.requestTimeoutS →
      Dead s'.queue rid ∧ s'.queue.finished.get? rid = some (sg.mapSeqs timedOut)
  freed : ∀ sid, Expires S s.queue now sid.request → s'.blockManager.tables.get? sid = none
  counted : ∃ rids : List RequestId, rids.Nodup ∧ (∀ rid, rid ∈ rids ↔ Expires S s.queue now rid) ∧
    s'.metrics.timeoutRequests = s.metrics.timeoutRequests + rids.length
  kept : ∀ rid, ¬ Expires S s.queue now rid → SameAt s.queue s'.queue rid ∧
    ∀ sid : SeqId, sid.request = rid → s'.blockManager.tables.get? sid = s.blockManager.tables.get? sid
  refCounts : ∀ p, s'.blockManager.allocator.getRefCount p =
    ((s'.blockManager.tables.total (fun t => t.getBlockIds.count p) : ℕ) : ℤ)
  again : checkTimeouts S s' now = s'

lemma checkTimeouts_exact {s : EngineState ε} (hw : WellFormed S s.core) (now : ℚ) :
    ExactSweep S now s (checkTimeouts S s now) := by
  obtain ⟨hnd, hin⟩ := expired_items hw now
  have hswept := timeouts_swept hw _ hnd hin
  have hw' := hw.reaches (checkTimeouts_refines (c := {}) hw now)
  rw [map_fst_items] at hswept hnd
  have hleft : ∀ rid, ¬ Expires S (checkTimeouts S s now).queue now rid := by
    rintro rid ⟨sg, hsg, hlate⟩
    obtain ⟨hsame, hlost⟩ := checkTimeouts_at hw now rid
    by_cases hexp : Expires S s.queue now rid
    · have hdead := (hlost hexp).toDead
      rcases hsg with hsg | hsg
      · rw [hdead.waiting] at hsg
        cases hsg
      · rw [hdead.running] at hsg
        cases hsg
    · have hat := hsame hexp
      rw [hat.waiting, hat.running] at hsg
      exact hexp ⟨sg, hsg, hlate⟩
  refine ⟨fun rid sg hsg => ?_, fun rid sg hsg hlate => ?_, fun sid hexp => ?_, ?_, fun rid hexp => ?_,
    hw'.balanced.refs, ?_⟩
  · by_contra hlate
    exact hleft rid ⟨sg, hsg, not_le.mp hlate⟩
  · have hmoved := hswept.moved rid ((mem_expiredIds hw).mpr ⟨sg, hsg, hlate⟩)
    exact ⟨hmoved.toDead, hmoved.filed sg hsg⟩
  · have htable := hswept.tables sid
    rw [if_pos ((mem_expiredIds hw).mpr hexp)] at htable
    exact htable
  · exact ⟨expiredIds S s.queue now, hnd, fun rid => mem_expiredIds hw, hswept.counted⟩
  · refine ⟨(checkTimeouts_at hw now rid).1 hexp, fun sid hsid => ?_⟩
    have htable := hswept.tables sid
    rw [if_neg (fun hm => hexp (hsid ▸ (mem_expiredIds hw).mp hm))] at htable
    exact htable
  · have hnil : expiredIds S (checkTimeouts S s now).queue now = [] := by
      apply List.eq_nil_iff_forall_not_mem.mpr
      intro rid hm
      exact hleft rid ((mem_expiredIds hw').mp hm)
    obtain ⟨hrun, hwait⟩ := List.append_eq_nil_iff.mp hnil
    rw [checkTimeouts, hrun, hwait]
    rfl

theorem timeoutSweep_exact (S : Setup ε) (ops : List LLMEngine.Op) (now : ℚ) :
    ExactSweep S now (LLMEngine.run S ops) (checkTimeouts S (LLMEngine.run S ops) now) :=
  checkTimeouts_exact (wellFormed_run S ops) now

end MiniVllm
