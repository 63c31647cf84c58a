import MiniVllm.EngineProofs.Arrivals
import MiniVllm.EngineProofs.BlockUtilisation
import MiniVllm.EngineProofs.Cancellation
import MiniVllm.Library.SeatQueue
import MiniVllm.SchedulerProofs.Seating

/-! The engine as a line of jobs for `max_num_seqs` seats. -/

namespace MiniVllm

open EngineCore Scheduler Scheduler.BudgetLoop SeatQueue

variable {ε : Type} {S : Setup ε}

def chunksLeft (config : Config) (rest : ℕ) : ℕ := (rest - 1) / config.maxPrefillChunkSize + 1

def Sequence.roundsLeft (config : Config) (q : Sequence) : ℕ :=
  if q.due then 0
  else if q.status = .prefill then
    chunksLeft config (q.promptTokenIds.length - q.prefillCursor) + (q.samplingParams.maxTokens - 1).toNat
  else (q.samplingParams.maxTokens - q.numGeneratedTokens).toNat

/-- The batches of an uncached request beside its first. -/
def furtherRounds (config : Config) (promptLen : ℕ) (maxTokens : ℤ) : ℕ :=
  if maxTokens ≤ 0 then 0 else (promptLen - 1) / config.maxPrefillChunkSize + (maxTokens - 1).toNat

def stageOf (config : Config) (qu : RequestQueue) (rid : RequestId) : Stage :=
  match qu.waiting.get? rid, qu.runningSeq rid, qu.finished.get? rid with
  | some sg, _, _ => .waiting (furtherRounds config sg.promptTokenIds.length sg.samplingParams.maxTokens)
  | none, some q, _ => .serving (q.roundsLeft config)
  | none, none, some sg => if sg.seqs.any (·.status = .finished) then .done else .withdrawn
  | none, none, none => .withdrawn

def lineOf (config : Config) (s : EngineState ε) : List Stage :=
  (List.range s.seqGroupCount).map (stageOf config s.queue)

def seatPolicy (config : Config) : ℕ → ℕ :=
  if config.staticBatchMode then static config.maxNumSeqs else continuous config.maxNumSeqs

section Rounds

variable {config : Config}

lemma chunksLeft_last {rest : ℕ} (h : rest ≤ config.maxPrefillChunkSize) : chunksLeft config rest = 1 := by
  rw [chunksLeft, Nat.div_eq_of_lt]
  have hpos := config.maxPrefillChunkSize_pos
  omega

lemma chunksLeft_next {rest : ℕ} (h : config.maxPrefillChunkSize < rest) :
    chunksLeft config rest = chunksLeft config (rest - config.maxPrefillChunkSize) + 1 := by
  have hpos := config.maxPrefillChunkSize_pos
  have hsplit : rest - 1 = rest - config.maxPrefillChunkSize - 1 + config.maxPrefillChunkSize := by omega
  rw [chunksLeft, chunksLeft, hsplit, Nat.add_div_right _ hpos]

lemma roundsLeft_eq_zero {q : Sequence} : q.roundsLeft config = 0 ↔ q.due := by
  rw [Sequence.roundsLeft]
  constructor
  · intro h
    by_contra hd
    rw [if_neg hd] at h
    rw [Sequence.due, not_le] at hd
    split_ifs at h
    · have hpos : 0 < chunksLeft config (q.promptTokenIds.length - q.prefillCursor) := Nat.succ_pos _
      omega
    · omega
  · intro hd
    rw [if_pos hd]

end Rounds

section Batch

variable {queue : RequestQueue} {bm : BlockManager ε} {prefill decode : List Sequence} {n : ℕ}
  (hq : QueueFormed queue n) (hr : BatchReady S.config queue bm prefill decode) (token : SeqId → ℕ)

include hq hr

lemma roundsLeft_afterBatch {rid : RequestId} {q : Sequence} (hlive : queue.runningSeq rid = some q)
    (hm : q ∈ prefill ++ decode) :
    (afterBatch S.config (prefill.map (·.seqId)) (decode.map (·.seqId)) token q).roundsLeft S.config =
      q.roundsLeft S.config - 1 := by
  have hphase := hq.runningSeq_phase hlive
  rcases List.mem_append.mp hm with hp | hd
  · have hs := (hr.prefill_live q hp).2
    have hg : q.numGeneratedTokens = 0 := by
      rcases hphase with ⟨-, -, h, -⟩ | ⟨h, -⟩
      · exact h
      · rw [hs] at h
        cases h
    have hle := hphase.cursor_le
    by_cases hc : chunkEnd S.config q = q.promptTokenIds.length
    · have hone : chunksLeft S.config (q.promptTokenIds.length - q.prefillCursor) = 1 := by
        apply chunksLeft_last
        rw [chunkEnd] at hc
        omega
      rw [afterBatch_completed hq hr token hlive hp hc]
      simp only [Sequence.roundsLeft, Sequence.due, hg, hs, hone, reduceCtorEq, if_false, if_true, Nat.cast_zero,
        Nat.cast_one]
      split_ifs <;> omega
    · have hnext : chunksLeft S.config (q.promptTokenIds.length - q.prefillCursor) =
          chunksLeft S.config (q.promptTokenIds.length - chunkEnd S.config q) + 1 := by
        rw [chunkEnd] at hc ⊢
        rw [chunksLeft_next (by omega)]
        congr 2
        omega
      rw [afterBatch_chunk hq hr token hlive hp hc]
      simp only [Sequence.roundsLeft, Sequence.due, hg, hs, hnext, if_true, Nat.cast_zero]
      split_ifs <;> omega
  · obtain ⟨-, hs, hlt⟩ := hr.decode_live q hd
    rw [afterBatch_decode hq hr token hlive hd]
    simp only [Sequence.roundsLeft, Sequence.due, hs, reduceCtorEq, if_false, Nat.cast_add, Nat.cast_one]
    split_ifs <;> omega

end Batch

lemma roundsLeft_admittedSeq (hoff : S.config.enablePrefixCaching = false) (bm : BlockManager ε) (sg : SequenceGroup) :
    (admittedSeq S bm sg).roundsLeft S.config - 1 =
      furtherRounds S.config sg.promptTokenIds.length sg.samplingParams.maxTokens := by
  have hprobe : bm.probePrefixCache S.blockParams sg.promptTokenIds = {} := BlockManager.probe_off hoff bm _
  have hcursor : (admittedSeq S bm sg).prefillCursor = 0 := by
    simp only [admittedSeq, hprobe, admissionCursor, Nat.sub_zero]
    split_ifs with h
    · omega
    · rfl
  have hparams : (admittedSeq S bm sg).samplingParams = sg.samplingParams := rfl
  have hprompt : (admittedSeq S bm sg).promptTokenIds = sg.promptTokenIds := rfl
  have hstatus : (admittedSeq S bm sg).status = .prefill := rfl
  have hgenerated : (admittedSeq S bm sg).numGeneratedTokens = 0 := rfl
  simp only [Sequence.roundsLeft, Sequence.due, furtherRounds, chunksLeft, hcursor, hparams, hprompt, hstatus,
    hgenerated, if_true, Nat.cast_zero, Nat.sub_zero]
  generalize (sg.promptTokenIds.length - 1) / S.config.maxPrefillChunkSize = further
  split_ifs <;> omega

section StageOf

variable {config : Config} {qu : RequestQueue} {rid : RequestId}

lemma stageOf_waiting {sg : SequenceGroup} (h : qu.waiting.get? rid = some sg) : stageOf config qu rid =
    .waiting (furtherRounds config sg.promptTokenIds.length sg.samplingParams.maxTokens) := by
  simp only [stageOf, h]

lemma stageOf_running {q : Sequence} (hw : qu.waiting.get? rid = none) (h : qu.runningSeq rid = some q) :
    stageOf config qu rid = .serving (q.roundsLeft config) := by
  simp only [stageOf, hw, h]

lemma stageOf_dead (h : Dead qu rid) : stageOf config qu rid =
    if (qu.finished.get? rid).any (·.seqs.any (·.status = .finished)) then .done else .withdrawn := by
  have hseq : qu.runningSeq rid = none := by rw [RequestQueue.runningSeq, h.running]; rfl
  simp only [stageOf, h.waiting, hseq]
  cases qu.finished.get? rid <;> rfl

lemma stageOf_lost (h : Lost qu rid) : stageOf config qu rid = .withdrawn := by
  rw [stageOf_dead h.toDead, if_neg]
  simp only [Option.any_eq_true, List.any_eq_true, decide_eq_true_eq]
  rintro ⟨sg, hsg, q, hq, hs⟩
  exact h.unfinished sg hsg q hq hs

lemma SameAt.stageOf {qu' : RequestQueue} (h : SameAt qu qu' rid) :
    MiniVllm.stageOf config qu' rid = MiniVllm.stageOf config qu rid := by
  rw [MiniVllm.stageOf, MiniVllm.stageOf, h.waiting, h.runningSeq, h.finished]

lemma withdraw_dead (h : Dead qu rid) : (stageOf config qu rid).withdraw = stageOf config qu rid := by
  rw [stageOf_dead h]
  split_ifs <;> rfl

lemma QueueFormed.stage_cases {n : ℕ} (h : QueueFormed qu n) (rid : RequestId) :
    (∃ sg, qu.waiting.get? rid = some sg) ∨
      (∃ q, qu.waiting.get? rid = none ∧ qu.runningSeq rid = some q) ∨ Dead qu rid := by
  cases hw : qu.waiting.get? rid with
  | some sg => exact Or.inl ⟨sg, rfl⟩
  | none =>
    cases hr : qu.running.get? rid with
    | some sg =>
      obtain ⟨-, -, q, hq, -⟩ := h.running rid sg hr
      exact Or.inr (Or.inl ⟨q, rfl, h.runningSeq_eq_some.mpr ⟨sg, hr, hq⟩⟩)
    | none => exact Or.inr (Or.inr ⟨hw, hr⟩)

lemma withdraw_unfiled (h : qu.finished.get? rid = none) : (stageOf config qu rid).withdraw = .withdrawn := by
  rw [stageOf, h]
  split <;> first | rfl | contradiction

end StageOf

def late (config : Config) (arrivals : List ℚ) (now : ℚ) (rid : RequestId) : Bool :=
  arrivals[rid]?.any (fun arrival => now - arrival > config.requestTimeoutS)

section Leave

variable {s : EngineState ε} (hw : WellFormed S s.core)

include hw

lemma stageOf_checkTimeouts {arrivals : List ℚ} (hline : InLine arrivals s.queue) (now : ℚ) (rid : RequestId) :
    stageOf S.config (checkTimeouts S s now).queue rid =
      if late S.config arrivals now rid then (stageOf S.config s.queue rid).withdraw
      else stageOf S.config s.queue rid := by
  obtain ⟨hsame, hlost⟩ := checkTimeouts_at hw now rid
  have hlate : ∀ sg, s.queue.waiting.get? rid = some sg ∨ s.queue.running.get? rid = some sg →
      (late S.config arrivals now rid = true ↔ Expires S s.queue now rid) := by
    intro sg hsg
    simp only [late, hline.arrived rid sg hsg, Option.any_some, decide_eq_true_eq]
    refine ⟨fun ht => ⟨sg, hsg, ht⟩, ?_⟩
    rintro ⟨g, hg, ht⟩
    have hsame := (hline.arrived rid g hg).symm.trans (hline.arrived rid sg hsg)
    rwa [Option.some.inj hsame] at ht
  by_cases hd : Dead s.queue rid
  · have hno : ¬ Expires S s.queue now rid := by
      rintro ⟨sg, hsg | hsg, -⟩
      · cases hd.waiting.symm.trans hsg
      · cases hd.running.symm.trans hsg
    rw [(hsame hno).stageOf, withdraw_dead hd, ite_self]
  · obtain ⟨sg, hsg⟩ : ∃ sg, s.queue.waiting.get? rid = some sg ∨ s.queue.running.get? rid = some sg := by
      by_contra hno
      rw [not_exists] at hno
      exact hd ⟨Option.eq_none_iff_forall_not_mem.mpr fun g hg => hno g (Or.inl hg),
        Option.eq_none_iff_forall_not_mem.mpr fun g hg => hno g (Or.inr hg)⟩
    by_cases hexp : Expires S s.queue now rid
    · have hunfiled : s.queue.finished.get? rid = none := by
        rcases hsg with hsg | hsg
        · exact (hw.queue.only_waiting hsg).2.1
        · exact (hw.queue.only_running hsg).1
      rw [if_pos ((hlate sg hsg).mpr hexp), stageOf_lost (hlost hexp), withdraw_unfiled hunfiled]
    · rw [if_neg (mt (hlate sg hsg).mp hexp), (hsame hexp).stageOf]

lemma stageOf_cancelRequest (id rid : RequestId) : stageOf S.config (cancelRequest S s id).2.queue rid =
    if rid = id then (stageOf S.config s.queue rid).withdraw else stageOf S.config s.queue rid := by
  have hremoves := cancelRequest_removes hw id
  by_cases hid : rid = id
  · subst hid
    rw [if_pos rfl]
    cases hf : s.queue.finished.get? rid with
    | some sg =>
      have hdead : Dead s.queue rid := hw.queue.dead_of_finished hf
      rw [cancelRequest_finished hw hf, withdraw_dead hdead]
    | none =>
      have hlost : Lost (cancelRequest S s rid).2.queue rid := by
        refine ⟨hremoves.dead, fun sg hsg q hq hs => ?_⟩
        cases hf.symm.trans (cancelRequest_finishedAt hw hsg hq hs)
      rw [stageOf_lost hlost, withdraw_unfiled hf]
  · rw [if_neg hid, (hremoves.others rid hid).stageOf]

end Leave

lemma lineOf_leave {config : Config} {s s' : EngineState ε} (hn : s'.seqGroupCount = s.seqGroupCount) {gone : ℕ → Bool}
    (h : ∀ rid, stageOf config s'.queue rid =
      if gone rid then (stageOf config s.queue rid).withdraw else stageOf config s.queue rid) (policy : ℕ → ℕ) :
    lineOf config s' = SeatQueue.step policy (lineOf config s) (.leave gone) := by
  apply List.ext_getElem
  · simp [lineOf, SeatQueue.step, hn]
  · intro i h₁ h₂
    simp [lineOf, SeatQueue.step, h]

structure Round (S : Setup ε) (qu : RequestQueue) (admitted : List RequestId) (qu' : RequestQueue) : Prop where
  waiting : ∀ rid sg, qu.waiting.get? rid = some sg → stageOf S.config qu' rid =
    if rid ∈ admitted then .serving (furtherRounds S.config sg.promptTokenIds.length sg.samplingParams.maxTokens)
    else .waiting (furtherRounds S.config sg.promptTokenIds.length sg.samplingParams.maxTokens)
  running : ∀ rid q, qu.runningSeq rid = some q → stageOf S.config qu' rid =
    if q.due then .done else .serving (q.roundsLeft S.config - 1)
  dead : ∀ rid, Dead qu rid → stageOf S.config qu' rid = stageOf S.config qu rid

section Step

variable {s : EngineState ε} (hw : WellFormed S s.core) {now : ℚ} {l l' : BudgetLoop ε}
  {visited : List SequenceGroup} (hsched : Schedules S (beginStep S s now).core l l' visited)
  (hfills : FillsSeats S l l' visited)

include hw hsched hfills

lemma FillsSeats.in_batch {rid : RequestId} {q : Sequence} (hq : l'.queue.runningSeq rid = some q) :
    q ∈ prefillSeqs l'.queue (l'.report l.queue.decodes.length) ++
      decodeSeqs l'.queue (l'.report l.queue.decodes.length) := by
  have hwb := beginStep_wellFormed hw now
  have hwl : QueueFormed l'.queue _ := (hsched.wellFormed hwb).queue
  obtain ⟨sg, hsg, -⟩ := hwl.runningSeq_eq_some.mp hq
  have hlisted : rid ∈ l'.result.scheduledPrefillGroups ∨ rid ∈ l'.result.scheduledDecodeGroups := by
    by_cases hl : l.queue.running.get? rid = none
    · have hrun := (hsched.moved hwb).running rid
      rw [hsg, hl] at hrun
      by_contra hno
      rw [if_neg fun hp => hno (Or.inl hp)] at hrun
      cases hrun
    · rw [hfills.admitted, hsched.visits.frame.2.2.1]
      exact (hfills.continued rid hl).imp_left (List.mem_append_left _)
  rcases hlisted with hp | hd
  · obtain ⟨q', hq', hs⟩ := hsched.done.scheduled.prefill rid hp
    obtain rfl : q' = q := Option.some.inj (hq'.symm.trans hq)
    exact List.mem_append_left _ (List.mem_filter.mpr ⟨mem_scheduledSeqs hwl hp hq, by simpa using hs⟩)
  · exact List.mem_append_right _ (mem_scheduledSeqs hwl hd hq)

lemma FillsSeats.executed {queue : RequestQueue} {bm : BlockManager ε}
    (hexec : Executes S {} ⟨l'.queue, l'.blockManager, s.seqGroupCount⟩
      (prefillSeqs l'.queue (l'.report l.queue.decodes.length))
      (decodeSeqs l'.queue (l'.report l.queue.decodes.length)) (.ok ()) queue bm)
    {rid : RequestId} {q : Sequence} (hq : l'.queue.runningSeq rid = some q) :
    ∃ q', queue.runningSeq rid = some q' ∧ q'.roundsLeft S.config = q.roundsLeft S.config - 1 := by
  have hwl : QueueFormed l'.queue _ := (hsched.wellFormed (beginStep_wellFormed hw now)).queue
  have hm := hfills.in_batch hw hsched hq
  cases hexec with
  | kept _ _ hempty =>
    have he := hempty rfl
    simp only [Bool.and_eq_true, List.isEmpty_iff] at he
    rw [he.1, he.2] at hm
    cases hm
  | done bm output x queue hreach hready hrunning =>
    have hseq := RequestQueue.runningSeq_map hrunning rid
    rw [hq] at hseq
    exact ⟨_, hseq, roundsLeft_afterBatch hwl hready _ hq hm⟩

lemma FillsSeats.round (hoff : S.config.enablePrefixCaching = false) {queue : RequestQueue} {bm : BlockManager ε}
    (hexec : Executes S {} ⟨l'.queue, l'.blockManager, s.seqGroupCount⟩
      (prefillSeqs l'.queue (l'.report l.queue.decodes.length))
      (decodeSeqs l'.queue (l'.report l.queue.decodes.length)) (.ok ()) queue bm)
    (hframe : queue.waiting = l'.queue.waiting ∧ queue.finished = l'.queue.finished) :
    Round S (beginStep S s now).queue ((visited.map (·.requestId)).take (S.config.maxNumSeqs - l.queue.numRunning))
      queue := by
  have hwb := beginStep_wellFormed hw now
  have hqb : QueueFormed (beginStep S s now).queue _ := hwb.queue
  have hmoved := hsched.moved hwb
  have hacc := hsched.accounted hwb
  have hwait₀ : l.queue.waiting = (beginStep S s now).queue.waiting := hsched.waiting_eq hwb
  have hnone : ∀ rid, queue.running.get? rid = none ↔ l'.queue.running.get? rid = none := by
    intro rid
    cases hexec with
    | kept => exact Iff.rfl
    | done bm output x queue hreach hready hrunning => rw [hrunning, Option.map_eq_none_iff]
  refine ⟨fun rid sg hsg => ?_, fun rid q hq => ?_, fun rid hd => ?_⟩
  · have hnot : rid ∉ l.result.scheduledPrefillGroups := by
      intro hp
      obtain ⟨g, hg⟩ := hsched.prefill_running hp
      have hl := (hwb.reaches hsched.admitting.reach).queue.waiting_of_running hg
      simp only [hwait₀] at hl
      cases hl.symm.trans hsg
    have hlisted : rid ∈ l'.result.scheduledPrefillGroups ↔
        rid ∈ (visited.map (·.requestId)).take (S.config.maxNumSeqs - l.queue.numRunning) := by
      rw [hfills.admitted, List.mem_append, or_iff_right hnot]
    have hw' := hmoved.waiting rid
    have hr' := hmoved.running rid
    have hl : l.queue.running.get? rid = none := by
      rw [hsched.running_eq hwb]
      split_ifs
      · rfl
      · exact (hqb.only_waiting hsg).1
    rw [hfills.rejected, hwait₀, hsg] at hw'
    rw [hl, hwait₀, hsg] at hr'
    simp only [List.not_mem_nil, or_false, hlisted] at hw' hr'
    by_cases hm : rid ∈ (visited.map (·.requestId)).take (S.config.maxNumSeqs - l.queue.numRunning)
    · rw [if_pos hm] at hw' hr' ⊢
      have hseqs := (hqb.waiting rid sg hsg).2.2
      have hseq : l'.queue.runningSeq rid = some (admittedSeq S l.blockManager sg) := by
        rw [RequestQueue.runningSeq, hr']
        simp [admittedGroup, hseqs]
      obtain ⟨q', hq', hrounds⟩ := hfills.executed hw hsched hexec hseq
      rw [stageOf_running (by rw [hframe.1, hw']) hq', hrounds, roundsLeft_admittedSeq hoff]
    · rw [if_neg hm] at hw' ⊢
      exact stageOf_waiting (by rw [hframe.1, hw'])
  · obtain ⟨sg, hsg, hseqs, -⟩ := hqb.runningSeq_group hq
    have hwait : queue.waiting.get? rid = none := by
      rw [hframe.1, hacc.waiting_pool]
      split_ifs
      · rfl
      · exact hqb.waiting_of_running hsg
    by_cases hdue : q.due
    · have hfin : rid ∈ l'.result.finishedGroups :=
        (hsched.finished_iff hwb).mpr ⟨sg, hsg, (SequenceGroup.due_iff hseqs).mpr hdue⟩
      have hrun : queue.running.get? rid = none := by
        rw [hnone, hacc.running_pool]
        exact if_pos hfin
      have hfile : queue.finished.get? rid = some sg.retired := by
        rw [hframe.2, hacc.finished_pool]
        refine (if_pos hfin).trans ?_
        rw [show (beginStep S s now).core.queue.running.get? rid = some sg from hsg]
        rfl
      rw [if_pos hdue, stageOf_dead ⟨hwait, hrun⟩, hfile, if_pos]
      simp [SequenceGroup.retired, SequenceGroup.mapSeqs, hseqs]
    · have hkept : rid ∉ l'.result.finishedGroups := by
        intro hfin
        obtain ⟨g, hg, hd⟩ := (hsched.finished_iff hwb).mp hfin
        obtain rfl : g = sg := Option.some.inj (hg.symm.trans hsg)
        exact hdue ((SequenceGroup.due_iff hseqs).mp hd)
      have hrun := hmoved.running rid
      rw [hsched.running_eq hwb, if_neg hkept] at hrun
      have hseq : l'.queue.runningSeq rid = some q := by
        rw [RequestQueue.runningSeq, hrun, show (beginStep S s now).core.queue.running.get? rid = some sg from hsg]
        simp [hseqs]
      obtain ⟨q', hq', hrounds⟩ := hfills.executed hw hsched hexec hseq
      rw [if_neg hdue, stageOf_running hwait hq', hrounds]
  · have hrun₀ : (beginStep S s now).core.queue.running.get? rid = none := hd.running
    have hwait₁ : (beginStep S s now).core.queue.waiting.get? rid = none := hd.waiting
    have hkept : rid ∉ (l'.report l.queue.decodes.length).finishedGroups := by
      intro hfin
      obtain ⟨g, hg, -⟩ := (hsched.finished_iff hwb).mp hfin
      cases hrun₀.symm.trans hg
    have hdead : Dead queue rid := by
      constructor
      · rw [hframe.1, hacc.waiting_pool, hwait₁, ite_self]
      · rw [hnone, hacc.running_pool, if_neg hkept, hrun₀, hwait₁]
        simp
    have hfile : queue.finished.get? rid = (beginStep S s now).queue.finished.get? rid := by
      rw [hframe.2, hacc.finished_pool, if_neg hkept]
      rfl
    rw [stageOf_dead hdead, stageOf_dead hd, hfile]

end Step

lemma mem_take_increasing {xs : List ℕ} (h : xs.Pairwise (· < ·)) (k x : ℕ) :
    x ∈ xs.take k ↔ x ∈ xs ∧ xs.countP (· < x) < k := by
  induction xs generalizing k with
  | nil => simp
  | cons y xs ih =>
    obtain ⟨hy, hxs⟩ := List.pairwise_cons.mp h
    rw [List.countP_cons]
    cases k with
    | zero => simp
    | succ k =>
      rw [List.take_succ_cons, List.mem_cons, List.mem_cons, ih hxs]
      by_cases he : x = y
      · subst he
        have hzero : xs.countP (· < x) = 0 := by
          rw [List.countP_eq_zero]
          intro z hz
          have hlt := hy z hz
          simp only [decide_eq_true_eq]
          omega
        simp [hzero]
      · rw [or_iff_right he, or_iff_right he]
        refine and_congr_right fun hx => ?_
        have hlt := hy x hx
        simp only [hlt, decide_true, if_true]
        omega

lemma waiting_ahead (qu : RequestQueue) (rid : RequestId) :
    qu.waiting.keys.countP (· < rid) = (List.range rid).countP qu.waiting.contains := by
  have hnd : qu.waiting.keys.Nodup := qu.waiting.nodup
  rw [List.countP_eq_length_filter, List.countP_eq_length_filter]
  apply List.Perm.length_eq
  apply (List.perm_ext_iff_of_nodup (hnd.filter _) (List.nodup_range.filter _)).mpr
  intro k
  rw [List.mem_filter, List.mem_filter, List.mem_range, decide_eq_true_eq, Dict.mem_keys_iff]
  exact and_comm

section Line

variable {config : Config} {s : EngineState ε} (hq : QueueFormed s.queue s.seqGroupCount)

include hq

lemma waiting_before {rid : RequestId} (hrid : rid ≤ s.seqGroupCount) :
    ((lineOf config s).take rid).countP Stage.isWaiting = (List.range rid).countP s.queue.waiting.contains := by
  rw [lineOf, ← List.map_take, List.take_range, Nat.min_eq_left hrid, List.countP_map]
  refine List.countP_congr fun k _ => ?_
  rw [Function.comp_apply, Dict.contains]
  rcases hq.stage_cases k with ⟨sg, hsg⟩ | ⟨q, hw, hr⟩ | hd
  · rw [stageOf_waiting hsg, hsg]
    exact Iff.rfl
  · rw [stageOf_running hw hr, hw]
    exact Iff.rfl
  · rw [stageOf_dead hd, hd.waiting]
    split_ifs <;> exact Iff.rfl

lemma inService_line {qu : RequestQueue}
    (hrun : ∀ rid, qu.running.contains rid = true ↔ ∃ q, s.queue.runningSeq rid = some q ∧ ¬ q.due) :
    inService ((lineOf config s).map Stage.retire) = qu.numRunning := by
  have hall : ∀ rid, qu.running.contains rid = true → rid ∈ List.range s.seqGroupCount := by
    intro rid hrid
    obtain ⟨q, hr, -⟩ := (hrun rid).mp hrid
    obtain ⟨sg, hsg, -⟩ := hq.runningSeq_group hr
    exact List.mem_range.mpr (hq.running rid sg hsg).2.1
  rw [RequestQueue.numRunning, qu.running.size_eq_countP List.nodup_range hall, inService, lineOf, List.map_map,
    List.countP_map]
  refine List.countP_congr fun rid _ => ?_
  rw [Function.comp_apply, Function.comp_apply, hrun]
  rcases hq.stage_cases rid with ⟨sg, hsg⟩ | ⟨q, hw, hr⟩ | hd
  · have hnone : s.queue.runningSeq rid = none := by
      rw [RequestQueue.runningSeq, (hq.only_waiting hsg).1]
      rfl
    rw [stageOf_waiting hsg, hnone]
    simp [Stage.retire, Stage.isServing]
  · rw [stageOf_running hw hr, hr]
    simp only [Option.some.injEq, exists_eq_left', ← @roundsLeft_eq_zero config]
    cases q.roundsLeft config <;> simp [Stage.retire, Stage.isServing]
  · have hnone : s.queue.runningSeq rid = none := by
      rw [RequestQueue.runningSeq, hd.running]
      rfl
    rw [stageOf_dead hd, hnone]
    split_ifs <;> simp [Stage.retire, Stage.isServing]

end Line

section Tick

variable {s : EngineState ε} (hw : WellFormed S s.core) {now : ℚ} {l l' : BudgetLoop ε}
  {visited : List SequenceGroup} (hsched : Schedules S (beginStep S s now).core l l' visited)

include hw hsched

lemma Schedules.policy_eq : seatPolicy S.config l.queue.numRunning =
    if AdmissionOpen S (beginStep S s now).queue then S.config.maxNumSeqs - l.queue.numRunning else 0 := by
  have hwb := beginStep_wellFormed hw now
  have hstaying : (beginStep S s now).queue.staying = l.queue.liveSeqs := (hsched.liveSeqs_eq hwb).symm
  have hempty : l.queue.liveSeqs = [] ↔ l.queue.numRunning = 0 := by
    have hnum := (hwb.reaches hsched.admitting.reach).queue.numRunning_eq
    simp only at hnum
    rw [liveSeqs_eq_nil, hnum, Nat.add_eq_zero_iff, List.length_eq_zero_iff, List.length_eq_zero_iff]
  have hopen : AdmissionOpen S (beginStep S s now).queue ↔
      (S.config.staticBatchMode = true → l.queue.numRunning = 0) := by
    rw [AdmissionOpen, hstaying, hempty]
  simp only [hopen, seatPolicy]
  cases S.config.staticBatchMode with
  | false => simp [continuous]
  | true =>
    by_cases hz : l.queue.numRunning = 0
    · simp [static, hz]
    · simp [static, hz]

lemma Schedules.mem_admitted {arrivals : List ℚ} (hline : InLine arrivals (beginStep S s now).queue) {rid : RequestId}
    (hrid : rid ≤ (beginStep S s now).seqGroupCount) :
    rid ∈ (visited.map (·.requestId)).take (S.config.maxNumSeqs - l.queue.numRunning) ↔
      (beginStep S s now).queue.waiting.contains rid = true ∧
        0 < seatsFor (seatPolicy S.config) (lineOf S.config (beginStep S s now)) rid := by
  have hwb := beginStep_wellFormed hw now
  have hqb : QueueFormed (beginStep S s now).queue (beginStep S s now).seqGroupCount := hwb.queue
  have hrun : ∀ k, l.queue.running.contains k = true ↔
      ∃ q, (beginStep S s now).queue.runningSeq k = some q ∧ ¬ q.due := by
    intro k
    rw [Dict.contains, Option.isSome_iff_exists, hsched.queue]
    constructor
    · rintro ⟨sg, hsg⟩
      obtain ⟨hg, hd⟩ := (finishLoop_running hwb).mp hsg
      obtain ⟨-, -, q, hq, -⟩ := hqb.running k sg hg
      refine ⟨q, hqb.runningSeq_eq_some.mpr ⟨sg, hg, hq⟩, ?_⟩
      rw [← SequenceGroup.due_iff hq, hd]
      exact Bool.false_ne_true
    · rintro ⟨q, hr, hd⟩
      obtain ⟨sg, hg, hq, -⟩ := hqb.runningSeq_group hr
      refine ⟨sg, (finishLoop_running hwb).mpr ⟨hg, ?_⟩⟩
      rw [← Bool.not_eq_true, SequenceGroup.due_iff hq]
      exact hd
  have hkeys := hqb.waiting_ids
  have hvisited : visited = if AdmissionOpen S (beginStep S s now).queue then
      (beginStep S s now).queue.waiting.values else [] := hsched.visited_open hwb
  rw [seatsFor, inService_line hqb hrun, waiting_before hqb hrid, hsched.policy_eq hw, hvisited]
  by_cases hopen : AdmissionOpen S (beginStep S s now).queue
  · rw [if_pos hopen, if_pos hopen, hkeys, mem_take_increasing hline.increasing, waiting_ahead, Dict.mem_keys_iff,
      Nat.sub_pos_iff_lt]
  · rw [if_neg hopen, if_neg hopen]
    simp

lemma Round.tick {arrivals : List ℚ} (hline : InLine arrivals (beginStep S s now).queue) {s' : EngineState ε}
    (hcount : s'.seqGroupCount = (beginStep S s now).seqGroupCount)
    (hround : Round S (beginStep S s now).queue
      ((visited.map (·.requestId)).take (S.config.maxNumSeqs - l.queue.numRunning)) s'.queue) :
    lineOf S.config s' = SeatQueue.tick (seatPolicy S.config) (lineOf S.config (beginStep S s now)) := by
  have hqb : QueueFormed (beginStep S s now).queue (beginStep S s now).seqGroupCount :=
    (beginStep_wellFormed hw now).queue
  apply List.ext_getElem?
  intro rid
  rw [getElem?_tick]
  by_cases hlt : rid < (beginStep S s now).seqGroupCount
  · have hafter : (lineOf S.config s')[rid]? = some (stageOf S.config s'.queue rid) := by
      rw [lineOf, List.getElem?_map, List.getElem?_range (hcount ▸ hlt)]
      rfl
    have hbefore : (lineOf S.config (beginStep S s now))[rid]? =
        some (stageOf S.config (beginStep S s now).queue rid) := by
      rw [lineOf, List.getElem?_map, List.getElem?_range hlt]
      rfl
    rw [hafter, hbefore, Option.map_some]
    congr 1
    have hadmitted := hsched.mem_admitted hw hline hlt.le
    generalize seatsFor (seatPolicy S.config) (lineOf S.config (beginStep S s now)) rid = seats at hadmitted ⊢
    rcases hqb.stage_cases rid with ⟨sg, hsg⟩ | ⟨q, hwait, hq⟩ | hd
    · rw [hround.waiting rid sg hsg, stageOf_waiting hsg]
      simp only [hadmitted, Dict.contains, hsg, Option.isSome_some, true_and]
      cases seats with
      | zero => rfl
      | succ seats => rw [if_pos (Nat.succ_pos _)]; rfl
    · rw [hround.running rid q hq, stageOf_running hwait hq]
      by_cases hdue : q.due
      · rw [if_pos hdue, roundsLeft_eq_zero.mpr hdue]
        rfl
      · obtain ⟨k, hk⟩ := Nat.exists_eq_succ_of_ne_zero (mt (@roundsLeft_eq_zero S.config q).mp hdue)
        rw [if_neg hdue, hk]
        rfl
    · rw [hround.dead rid hd, stageOf_dead hd]
      split_ifs <;> rfl
  · rw [lineOf, lineOf, List.getElem?_eq_none (by simp [hcount]; omega), List.getElem?_eq_none (by simp; omega)]
    rfl

end Tick

def eventsOf (S : Setup ε) : List ℚ → List LLMEngine.Op → List Event
  | _, [] => []
  | arrivals, .addRequest prompt maxNewTokens now :: ops =>
    .arrive (furtherRounds S.config (S.executor.tokenize prompt).length maxNewTokens) ::
      eventsOf S (arrivals ++ [now]) ops
  | arrivals, .step now :: ops => .leave (late S.config arrivals now) :: .tick :: eventsOf S arrivals ops
  | arrivals, .cancelRequest rid :: ops => .leave (fun i => i == rid) :: eventsOf S arrivals ops
  | arrivals, .checkTimeouts now :: ops => .leave (late S.config arrivals now) :: eventsOf S arrivals ops

lemma lineOf_addRequest (s : EngineState ε) (prompt : List Char) (maxNewTokens : ℤ) (now : ℚ) :
    lineOf S.config (LLMEngine.addRequest S s prompt maxNewTokens now) =
      lineOf S.config s ++ [.waiting (furtherRounds S.config (S.executor.tokenize prompt).length maxNewTokens)] := by
  have hcount : (LLMEngine.addRequest S s prompt maxNewTokens now).seqGroupCount = s.seqGroupCount + 1 := rfl
  rw [lineOf, hcount, List.range_succ, List.map_append, List.map_singleton]
  congr 1
  · refine List.map_congr_left fun rid hrid => ?_
    have hne : rid ≠ s.seqGroupCount := (List.mem_range.mp hrid).ne
    simp only [stageOf, LLMEngine.addRequest, RequestQueue.add, RequestQueue.runningSeq, Dict.get?_set_ne _ _ hne]
  · have hnew : (LLMEngine.addRequest S s prompt maxNewTokens now).queue.waiting.get? s.seqGroupCount = some _ :=
      s.queue.waiting.get?_set_self _ _
    rw [stageOf_waiting hnew]

section Apply

variable (hoff : S.config.enablePrefixCaching = false) (hc : SeatsCovered S.config) {s : EngineState ε}
  (hw : WellFormed S s.core) {arrivals : List ℚ} (hline : InLine arrivals s.queue)
  (hn : s.queue.numRunning ≤ S.config.maxNumSeqs)

include hoff hc hw hline hn

lemma lineOf_step {now : ℚ} (hok : Succeeds S s now) : lineOf S.config (LLMEngine.step S s now).2 =
    SeatQueue.tick (seatPolicy S.config)
      (SeatQueue.step (seatPolicy S.config) (lineOf S.config s) (.leave (late S.config arrivals now))) := by
  have hbegin := beginStep_refines (c := {}) hw now
  have hcount : (beginStep S s now).seqGroupCount = s.seqGroupCount := beginStep_seqGroupCount s now
  have hleave : lineOf S.config (beginStep S s now) =
      SeatQueue.step (seatPolicy S.config) (lineOf S.config s) (.leave (late S.config arrivals now)) :=
    lineOf_leave hcount (stageOf_checkTimeouts (s := { s with stepCount := s.stepCount + 1 }) hw hline now) _
  have hlineb : InLine arrivals (beginStep S s now).queue := hline.reaches hw hbegin hcount
  have hnb : (beginStep S s now).queue.numRunning ≤ S.config.maxNumSeqs :=
    numRunning_reaches hw hn (beginStep_refines hw now)
  have hqueue : (LLMEngine.step S s now).2.queue = (EngineCore.step S s now).2.queue := LLMEngine.step_queue s now
  have hcount' : (LLMEngine.step S s now).2.seqGroupCount = (beginStep S s now).seqGroupCount :=
    (LLMEngine.step_count s now).trans hcount.symm
  have hsteps := step_steps hw now
  rw [Succeeds, (LLMEngine.step_result s now).1] at hok
  rw [← hleave]
  generalize (EngineCore.step S s now).1 = r at hok hsteps
  generalize (EngineCore.step S s now).2 = s' at hqueue hsteps
  cases hsteps with
  | raised => cases hok
  | done l l' visited queue bm hsched hexec hframe =>
    have hqueue' : (LLMEngine.step S s now).2.queue = queue := by rw [hqueue, recordStep_queue]
    have hfills := hsched.fillsSeats (beginStep_wellFormed hw now) hc hnb
    have hround := hfills.round hw hsched hoff hexec ⟨hframe.1, hframe.2.1⟩
    rw [← hqueue'] at hround
    exact hround.tick hw hsched hlineb hcount'

lemma lineOf_apply {op : LLMEngine.Op} (hok : (Succeeds S).Apply s op) : lineOf S.config (LLMEngine.apply S s op) =
    (eventsOf S arrivals [op]).foldl (SeatQueue.step (seatPolicy S.config)) (lineOf S.config s) := by
  cases op with
  | addRequest prompt maxNewTokens now => exact lineOf_addRequest s prompt maxNewTokens now
  | step now => exact lineOf_step hoff hc hw hline hn hok
  | cancelRequest rid =>
    refine lineOf_leave (cancelRequest_seqGroupCount S s rid) (fun i => ?_) (seatPolicy S.config)
    simpa only [beq_iff_eq] using stageOf_cancelRequest hw rid i
  | checkTimeouts now =>
    exact lineOf_leave (checkTimeouts_seqGroupCount S s now) (stageOf_checkTimeouts hw hline now) (seatPolicy S.config)

end Apply

lemma eventsOf_cons (S : Setup ε) (arrivals : List ℚ) (op : LLMEngine.Op) (ops : List LLMEngine.Op) :
    eventsOf S arrivals (op :: ops) = eventsOf S arrivals [op] ++ eventsOf S (arrivals ++ arrivalsOf [op]) ops := by
  cases op <;> simp [eventsOf, arrivalsOf]

theorem lineOf_run (S : Setup ε) (hoff : S.config.enablePrefixCaching = false) (hc : SeatsCovered S.config)
    (ops more : List LLMEngine.Op) (hok : (Succeeds S).RunFrom S (LLMEngine.run S ops) more) :
    lineOf S.config (LLMEngine.run S (ops ++ more)) =
      (eventsOf S (arrivalsOf ops) more).foldl (SeatQueue.step (seatPolicy S.config))
        (lineOf S.config (LLMEngine.run S ops)) := by
  induction more generalizing ops with
  | nil => rw [List.append_nil]; rfl
  | cons op more ih =>
    obtain ⟨hop, hmore⟩ := hok
    have hrest := ih (ops ++ [op]) (by rw [LLMEngine.run_concat]; exact hmore)
    rw [List.append_assoc, List.singleton_append] at hrest
    rw [hrest, eventsOf_cons, List.foldl_append, arrivalsOf_append, LLMEngine.run_concat,
      lineOf_apply hoff hc (wellFormed_run S ops) (inLine_run S ops).2 (hc.numRunning_run ops) hop]

/-- The engine serves its requests as one line of jobs, whatever its executor and its pool of blocks. -/
theorem engine_refines_seatQueue (S : Setup ε) (hoff : S.config.enablePrefixCaching = false)
    (hc : SeatsCovered S.config) (ops : List LLMEngine.Op) (hok : (Succeeds S).Run S ops) :
    lineOf S.config (LLMEngine.run S ops) = SeatQueue.run (seatPolicy S.config) (eventsOf S [] ops) :=
  lineOf_run S hoff hc [] ops hok

def coveredSeats : Config :=
  { Config.default with
    maxNumSeqs := 2
    maxPrefillChunkSize := 2
    enablePrefixCaching := false
    maxNumSeqs_pos := Nat.two_pos
    maxPrefillChunkSize_pos := Nat.two_pos }

def fourRequests : List LLMEngine.Op :=
  [.addRequest ['a', 'b', 'c'] 2 0, .addRequest ['d'] 1 0, .addRequest ['e', 'f'] 2 0, .addRequest ['g'] 1 0,
    .step 0]

theorem engine_refines_seatQueue_of_four_requests :
    lineOf coveredSeats (LLMEngine.run (fakeSetup coveredSeats codeHash) fourRequests) =
      SeatQueue.run (seatPolicy coveredSeats) (eventsOf (fakeSetup coveredSeats codeHash) [] fourRequests) :=
  engine_refines_seatQueue (fakeSetup coveredSeats codeHash) rfl (by decide) fourRequests (by decide +kernel)

end MiniVllm
