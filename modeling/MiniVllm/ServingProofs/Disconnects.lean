import MiniVllm.EngineProofs.Cancellation
import MiniVllm.Serving.Generators
import MiniVllm.ServingProofs.Streams

/-! What the end of a `generate_stream_safe` generator leaves behind, in any interleaving. -/

namespace MiniVllm

open EngineCore

variable {ε : Type} {S : Setup ε}

structure Gone (s : EngineState ε) (rid : RequestId) : Prop where
  known : rid < s.seqGroupCount
  dead : Dead s.queue rid

section Engine

variable {s : EngineState ε} (hw : WellFormed S s.core) {rid : RequestId}

lemma count_le_apply (s : EngineState ε) (op : LLMEngine.Op) :
    s.seqGroupCount ≤ (LLMEngine.apply S s op).seqGroupCount := by
  cases op with
  | addRequest prompt maxNewTokens now => exact Nat.le_succ _
  | step now =>
    rw [LLMEngine.apply]
    exact (LLMEngine.step_count s now).ge
  | cancelRequest rid => exact (cancelRequest_seqGroupCount S s rid).ge
  | checkTimeouts now => exact (checkTimeouts_seqGroupCount S s now).ge

include hw

lemma Gone.apply (h : Gone s rid) (op : LLMEngine.Op) : Gone (LLMEngine.apply S s op) rid := by
  refine ⟨h.known.trans_le (count_le_apply s op), ?_⟩
  cases op with
  | addRequest prompt maxNewTokens now =>
    have hne : rid ≠ s.seqGroupCount := Nat.ne_of_lt h.known
    exact ⟨(s.queue.waiting.get?_set_ne _ hne).trans h.dead.waiting, h.dead.running⟩
  | step now =>
    have hdead : Dead (LLMEngine.step S s now).2.queue rid := (ServingLayer.step_sameAt hw h.dead now).dead h.dead
    rw [LLMEngine.apply]
    exact hdead
  | cancelRequest r =>
    have hremoves := cancelRequest_removes hw r
    by_cases hr : rid = r
    · rw [hr]
      exact hremoves.dead
    · exact (hremoves.others rid hr).dead h.dead
  | checkTimeouts now => exact ((checkTimeouts_filings hw now).sameAt h.dead).dead h.dead

end Engine

namespace ServingLayer

lemma calls_keep {s : EngineState ε} (hw : WellFormed S s.core) (ops : List LLMEngine.Op) :
    s.seqGroupCount ≤ (ops.foldl (LLMEngine.apply S) s).seqGroupCount ∧
      ∀ rid, Gone s rid → Gone (ops.foldl (LLMEngine.apply S) s) rid := by
  induction ops generalizing s with
  | nil => exact ⟨le_refl _, fun _ => id⟩
  | cons op rest ih =>
    have hone : Drives S s (LLMEngine.apply S s op) := ⟨s, [op], rfl, rfl⟩
    obtain ⟨hcount, hgone⟩ := ih (hw.reaches (hone.reaches hw))
    exact ⟨(count_le_apply s op).trans hcount, fun rid hg => hgone rid (hg.apply hw op)⟩

lemma Drives.keeps {s s' : EngineState ε} (hw : WellFormed S s.core) (hd : Drives S s s') :
    s.seqGroupCount ≤ s'.seqGroupCount ∧ ∀ rid, Gone s rid → Gone s' rid := by
  obtain ⟨s₁, ops, hcore, rfl⟩ := hd
  rw [← hcore] at hw
  have hcount : s₁.seqGroupCount = s.seqGroupCount := congrArg CoreState.seqGroupCount hcore
  have hqueue : s₁.queue = s.queue := congrArg CoreState.queue hcore
  obtain ⟨hle, hgone⟩ := calls_keep hw ops
  rw [← hcount]
  refine ⟨hle, fun rid h => hgone rid ⟨?_, ?_⟩⟩
  · rw [hcount]
    exact h.known
  · rw [hqueue]
    exact h.dead

structure Later (S : Setup ε) (s s' : ServingState ε) : Prop where
  wellFormed : WellFormed S s'.engine.core
  count : s.engine.seqGroupCount ≤ s'.engine.seqGroupCount
  gone : ∀ rid, Gone s.engine rid → Gone s'.engine rid
  marks : ∀ rid ∈ s'.finishedRequests, rid ∈ s.finishedRequests ∨ Gone s'.engine rid

namespace Later

variable {s s' s'' : ServingState ε}

lemma refl (hw : WellFormed S s.engine.core) : Later S s s := ⟨hw, le_refl _, fun _ => id, fun _ => .inl⟩

lemma trans (h : Later S s s') (h' : Later S s' s'') : Later S s s'' := by
  refine ⟨h'.wellFormed, h.count.trans h'.count, fun rid hg => h'.gone rid (h.gone rid hg), fun rid hm => ?_⟩
  rcases h'.marks rid hm with hm | hg
  · exact (h.marks rid hm).imp_right (h'.gone rid)
  · exact .inr hg

lemma of_drives (hw : WellFormed S s.engine.core) (hd : Drives S s.engine s'.engine)
    (hmarks : ∀ rid ∈ s'.finishedRequests, rid ∈ s.finishedRequests ∨ Gone s'.engine rid) : Later S s s' :=
  ⟨hw.reaches (hd.reaches hw), (hd.keeps hw).1, (hd.keeps hw).2, hmarks⟩

lemma of_marks (hw : WellFormed S s.engine.core) (hd : Drives S s.engine s'.engine)
    (hmarks : s'.finishedRequests = s.finishedRequests) : Later S s s' := by
  apply of_drives hw hd
  rw [hmarks]
  exact fun _ => .inl

end Later

section Calls

variable {s : ServingState ε} (hw : WellFormed S s.engine.core)

include hw

lemma generate_later (prompt : List Char) (maxTokens : ℤ) (stream : Bool) (trackingId : TrackingId) (clock : Clock)
    (readings : List ℚ) : Later S s (generate S s prompt maxTokens stream trackingId clock readings).2 := by
  apply Later.of_marks hw (generate_drives s prompt maxTokens stream trackingId clock readings)
  rcases generateGates_slots (S := S) s prompt maxTokens trackingId clock stream with
    ⟨response, s', hgates, hsame⟩ | ⟨engineRid, s', hgates, hslots⟩
  · simp only [generate, hgates]
    exact hsame.marks
  · refine (generate_slots readings hgates).1.trans ?_
    cases stream with
    | false => exact hslots.marks
    | true => exact hslots.marks

lemma generateStream_later (prompt : List Char) (maxTokens : ℤ) (trackingId : TrackingId) (clock : Clock) :
    Later S s (generateStream S s prompt maxTokens trackingId clock).2 := by
  apply Later.of_marks hw (generateStream_drives s prompt maxTokens trackingId clock)
  rcases generateStream_slots (S := S) s prompt maxTokens trackingId clock with
    ⟨error, s', hstream, hsame⟩ | ⟨s', hstream, htakes⟩
  · rw [hstream]
    exact hsame.marks
  · rw [hstream]
    exact htakes.marks

lemma generateStream_opens (prompt : List Char) (maxTokens : ℤ) (trackingId : TrackingId) (clock : Clock) :
    (∃ error s', generateStream S s prompt maxTokens trackingId clock = (.error error, s') ∧ Later S s s' ∧
        SameSlots s s') ∨
      ∃ rid s', generateStream S s prompt maxTokens trackingId clock = (.ok (rid, trackingId), s') ∧ Later S s s' ∧
        Acquires S trackingId s s' ∧ rid = s.engine.seqGroupCount ∧ rid < s'.engine.seqGroupCount := by
  have hlater := generateStream_later hw prompt maxTokens trackingId clock
  have hopens := generateStream_spec (S := S) s prompt maxTokens trackingId clock
  rcases generateStream_slots (S := S) s prompt maxTokens trackingId clock with
    ⟨error, s', hstream, hsame⟩ | ⟨s', hstream, hslot⟩
  · rw [hstream] at hlater
    exact .inl ⟨error, s', hstream, hlater, hsame⟩
  · rw [hstream] at hlater hopens
    refine .inr ⟨_, s', hstream, hlater, hslot, rfl, ?_⟩
    cases hopens with
    | submitted s₁ hcheck hcore =>
      have hcount : s₁.engine.seqGroupCount = s.engine.seqGroupCount := congrArg CoreState.seqGroupCount hcore
      rw [← hcount]
      exact Nat.lt_succ_self _

lemma cancel_later (rid : RequestId) : Later S s (cancel S s rid).2 := by
  apply Later.of_marks hw (cancel_drives s rid)
  rw [cancel]
  split <;> rfl

lemma step_later (now : ℚ) : Later S s (apply S s (.step now)) := by
  apply Later.of_marks hw (apply_drives s (.step now))
  rw [apply]

lemma checkTimeouts_later (now : ℚ) : Later S s (apply S s (.checkTimeouts now)) := by
  apply Later.of_marks hw (apply_drives s (.checkTimeouts now))
  rw [apply]

lemma pollStream_later (rid : RequestId) (trackingId : TrackingId) (genCount : ℕ) (now now' : ℚ) :
    Later S s (pollStream S s rid trackingId genCount now now').2 ∧
      ∀ reply, (pollStream S s rid trackingId genCount now now').1 = .ok reply → reply.finished = true →
        Gone (pollStream S s rid trackingId genCount now now').2.engine rid := by
  have hdrives := pollStream_drives (S := S) s rid trackingId genCount now now'
  have hw' : WellFormed S (pollStream S s rid trackingId genCount now now').2.engine.core :=
    hw.reaches (hdrives.reaches hw)
  have hpolls := pollStream_spec hw rid trackingId genCount now now'
  generalize (pollStream S s rid trackingId genCount now now').1 = r at hpolls
  generalize (pollStream S s rid trackingId genCount now now').2 = s' at hpolls hdrives hw' ⊢
  cases hpolls with
  | raised err engine hstep => exact ⟨Later.of_marks hw hdrives rfl, fun _ h => by cases h⟩
  | finished result engine sg q hstep hdue hsg hq hst =>
    have hgone : Gone (checkTimeouts S engine now') rid :=
      ⟨(hw'.queue.finished rid sg hsg).2.1, hw'.queue.dead_of_finished hsg⟩
    refine ⟨Later.of_drives hw hdrives fun r hr => ?_, fun _ _ _ => hgone⟩
    rcases Finset.mem_insert.mp hr with rfl | hold
    · exact .inr hgone
    · exact .inl hold
  | token result engine q hstep hgone hrun hdec hlt =>
    refine ⟨Later.of_marks hw hdrives rfl, fun reply hreply hfin => ?_⟩
    cases hreply
    cases hfin
  | idle result engine hstep hgone =>
    refine ⟨Later.of_marks hw hdrives rfl, fun reply hreply hfin => ?_⟩
    cases hreply
    cases hfin

end Calls

structure Marked (S : Setup ε) (s : ServingState ε) : Prop where
  wellFormed : WellFormed S s.engine.core
  gone : ∀ rid ∈ s.finishedRequests, Gone s.engine rid

lemma Marked.later {s s' : ServingState ε} (h : Marked S s) (hl : Later S s s') : Marked S s' := by
  refine ⟨hl.wellFormed, fun rid hrid => ?_⟩
  rcases hl.marks rid hrid with hold | hnew
  · exact hl.gone rid (h.gone rid hold)
  · exact hnew

end ServingLayer

def Follows (s : EngineState ε) (rid : RequestId) (finished : Bool) : Prop :=
  rid < s.seqGroupCount ∧ (finished = true → Gone s rid)

lemma Follows.later {s s' : ServingState ε} {rid : RequestId} {finished : Bool}
    (h : Follows s.engine rid finished) (hl : ServingLayer.Later S s s') :
    Follows s'.engine rid finished :=
  ⟨h.1.trans_le hl.count, fun hf => hl.gone rid (h.2 hf)⟩

def Generator.Fits (s : EngineState ε) : Generator → Prop
  | polling engineRid _ _ finished => Follows s engineRid finished
  | _ => True

def Outcome.Fits (s : EngineState ε) : Outcome → Prop
  | suspends g => g.Fits s
  | leaves engineRid _ finished => Follows s engineRid finished
  | ends => True

lemma Generator.Fits.later {s s' : ServingState ε} {g : Generator} (h : g.Fits s.engine)
    (hl : ServingLayer.Later S s s') : g.Fits s'.engine := by
  cases g with
  | created => trivial
  | refused => trivial
  | polling => exact Follows.later h hl
  | closed => trivial

namespace ServingLayer

section Close

variable {s : ServingState ε} (h : Marked S s) {rid : RequestId} {finished : Bool}
  (hf : Follows s.engine rid finished) (trackingId : TrackingId)

include h hf

theorem closeStream_removes : Removes s.engine (closeStream S s rid trackingId finished).engine rid := by
  have hstays : Gone s.engine rid → Removes s.engine s.engine rid := by
    intro hgone
    refine ⟨hgone.dead, fun sid hsid => ?_, h.wellFormed.balanced, fun r _ => .refl _ r, fun _ _ => rfl⟩
    apply h.wellFormed.table_of_dead
    rw [hsid]
    exact hgone.dead
  simp only [closeStream, abort]
  split_ifs with hfin hmark
  · exact hstays (hf.2 hfin)
  · exact hstays (h.gone rid hmark)
  · have hremoves := cancelRequest_removes h.wellFormed rid
    rw [cancel]
    split <;> rename_i he <;> rw [he] at hremoves <;> exact hremoves

lemma closeStream_later : Later S s (closeStream S s rid trackingId finished) := by
  have hdrives := closeStream_drives (S := S) s rid trackingId finished
  have hgone : Gone (closeStream S s rid trackingId finished).engine rid :=
    ⟨hf.1.trans_le (hdrives.keeps h.wellFormed).1, (closeStream_removes h hf trackingId).dead⟩
  have hmarks : ∀ r ∈ (closeStream S s rid trackingId finished).finishedRequests,
      r ∈ s.finishedRequests ∨ r = rid := by
    simp only [closeStream, abort, cancel]
    split_ifs
    · exact fun _ => .inl
    · exact fun _ => .inl
    · split <;> exact fun r hr => (Finset.mem_insert.mp hr).symm
  apply Later.of_drives h.wellFormed hdrives
  intro r hr
  rcases hmarks r hr with hold | rfl
  · exact .inl hold
  · exact .inr hgone

end Close

end ServingLayer

structure Fitting (S : Setup ε) (s : ServingState ε) (result : Outcome × ServingState ε) : Prop where
  later : ServingLayer.Later S s result.2
  fits : result.1.Fits result.2.engine

lemma Fitting.after {s s' : ServingState ε} {result : Outcome × ServingState ε} (hl : ServingLayer.Later S s s')
    (h : Fitting S s' result) : Fitting S s result := ⟨hl.trans h.later, h.fits⟩

namespace Generator

open ServingLayer

variable {s : ServingState ε} (h : Marked S s)

include h

lemma poll_fits {engineRid : RequestId} (hknown : engineRid < s.engine.seqGroupCount) (trackingId : TrackingId)
    (genCount : ℕ) (now now' : ℚ) :
    Fitting S s (poll S s engineRid trackingId genCount now now') := by
  obtain ⟨hlater, hgone⟩ := pollStream_later h.wellFormed engineRid trackingId genCount now now'
  rw [poll]
  cases hp : pollStream S s engineRid trackingId genCount now now' with
  | mk r s' =>
  rw [hp] at hlater hgone
  have hafter : engineRid < s'.engine.seqGroupCount := hknown.trans_le hlater.count
  cases r with
  | error err => exact ⟨hlater, hafter, fun h => by cases h⟩
  | ok reply => exact ⟨hlater, hafter, hgone reply rfl⟩

lemma resume_fits {g : Generator} (hg : g.Fits s.engine) (trackingId : TrackingId) (clock : Clock)
    (now now' : ℚ) : Fitting S s (resume S s trackingId clock now now' g) := by
  cases g with
  | created prompt maxTokens =>
    rw [resume]
    rcases generateStream_opens h.wellFormed prompt maxTokens trackingId clock with
      ⟨error, s', hstream, hlater, -⟩ | ⟨rid, s', hstream, hlater, -, -, hknown⟩
    · rw [hstream]
      exact ⟨hlater, trivial⟩
    · rw [hstream]
      exact (poll_fits (h.later hlater) hknown trackingId 0 now now').after hlater
  | refused => exact ⟨.refl h.wellFormed, trivial⟩
  | polling engineRid trackingId genCount finished =>
    rw [resume]
    split_ifs with hfin
    · rw [hfin] at hg
      exact ⟨.refl h.wellFormed, hg⟩
    · exact poll_fits h hg.1 trackingId genCount now now'
  | closed => exact ⟨.refl h.wellFormed, trivial⟩

lemma settle_fits {outcome : Outcome} (ho : outcome.Fits s.engine) :
    Later S s (settle S s outcome).2 ∧ (settle S s outcome).1.Fits (settle S s outcome).2.engine := by
  cases outcome with
  | suspends g => exact ⟨.refl h.wellFormed, ho⟩
  | leaves engineRid trackingId finished => exact ⟨closeStream_later h ho trackingId, trivial⟩
  | ends => exact ⟨.refl h.wellFormed, trivial⟩

end Generator

lemma Generator.interrupt_fits {s : EngineState ε} {g : Generator} (h : g.Fits s) : g.interrupt.Fits s := by
  cases g with
  | created => trivial
  | refused => trivial
  | polling => exact h
  | closed => trivial

namespace Sessions

open ServingLayer

structure Tidy (S : Setup ε) (x : Sessions ε) : Prop where
  marked : Marked S x.server
  generators : ∀ gid g, x.generators.get? gid = some g → g.Fits x.server.engine
  streams : ∀ rid stream, x.streams.get? rid = some stream → Follows x.server.engine rid stream.2

section Steps

variable {x : Sessions ε} (h : Tidy S x)

include h

lemma Tidy.withServer {server : ServingState ε} (hl : Later S x.server server) : Tidy S (x.withServer server) :=
  ⟨h.marked.later hl, fun gid g hg => (h.generators gid g hg).later hl,
    fun rid stream hs => (h.streams rid stream hs).later hl⟩

lemma Tidy.setGenerator {gid : ℕ} {g : Generator} (hg : g.Fits x.server.engine) :
    Tidy S { x with generators := x.generators.set gid g } := by
  refine ⟨h.marked, fun gid' g' hg' => ?_, h.streams⟩
  rcases Dict.get?_set_some hg' with ⟨-, rfl⟩ | hold
  · exact hg
  · exact h.generators gid' g' hold

lemma Tidy.setStream {rid : RequestId} {stream : TrackingId × Bool}
    (hs : Follows x.server.engine rid stream.2) : Tidy S { x with streams := x.streams.set rid stream } := by
  refine ⟨h.marked, h.generators, fun rid' stream' hs' => ?_⟩
  rcases Dict.get?_set_some hs' with ⟨rfl, rfl⟩ | hold
  · exact hs
  · exact h.streams rid' stream' hold

lemma Tidy.settled {result : Outcome × ServingState ε} (hr : Fitting S x.server result) (gid : ℕ) :
    Tidy S (x.settled S gid result) := by
  obtain ⟨hsettle, hfits⟩ := Generator.settle_fits (h.marked.later hr.later) hr.fits
  exact (h.withServer (hr.later.trans hsettle)).setGenerator hfits

lemma Tidy.poll {rid : RequestId} {stream : TrackingId × Bool} (hs : x.streams.get? rid = some stream)
    (genCount : ℕ) (now now' : ℚ) : Tidy S (x.poll S rid stream genCount now now') := by
  obtain ⟨hlater, hgone⟩ := pollStream_later h.marked.wellFormed rid stream.1 genCount now now'
  have hfollows := (h.streams rid stream hs).later hlater
  rw [Sessions.poll]
  cases hp : pollStream S x.server rid stream.1 genCount now now' with
  | mk r server =>
  rw [hp] at hlater hgone hfollows
  cases r with
  | error err => exact h.withServer hlater
  | ok reply =>
    apply (h.withServer hlater).setStream
    refine ⟨hfollows.1, fun hfin => ?_⟩
    rcases Bool.or_eq_true_iff.mp hfin with hold | hnew
    · exact hfollows.2 hold
    · exact hgone reply rfl hnew

lemma Tidy.openStream (prompt : List Char) (maxTokens : ℤ) (trackingId : TrackingId) (clock : Clock) :
    Tidy S (x.openStream S prompt maxTokens trackingId clock) := by
  rw [Sessions.openStream]
  rcases generateStream_opens h.marked.wellFormed prompt maxTokens trackingId clock with
    ⟨error, server, hstream, hlater, -⟩ | ⟨rid, server, hstream, hlater, -, -, hknown⟩
  · rw [hstream]
    exact h.withServer hlater
  · rw [hstream]
    apply (h.withServer hlater).setStream
    exact ⟨hknown, fun h => by cases h⟩

lemma Tidy.body {event : Event} {result : Outcome × ServingState ε} (hb : x.body S event = some result) :
    Fitting S x.server result := by
  cases event with
  | next gid trackingId clock now now' =>
    obtain ⟨g, hg, rfl⟩ := Option.map_eq_some_iff.mp hb
    exact Generator.resume_fits h.marked (h.generators gid g hg) trackingId clock now now'
  | close gid =>
    obtain ⟨g, hg, rfl⟩ := Option.map_eq_some_iff.mp hb
    exact ⟨.refl h.marked.wellFormed, Generator.interrupt_fits (h.generators gid g hg)⟩
  | create => cases hb
  | generate => cases hb
  | generateStream => cases hb
  | pollStream => cases hb
  | cancel => cases hb
  | step => cases hb
  | checkTimeouts => cases hb

theorem Tidy.apply (event : Event) : Tidy S (x.apply S event) := by
  have hw := h.marked.wellFormed
  cases event with
  | create gid prompt maxTokens =>
    rw [Sessions.apply]
    split_ifs
    · exact h
    · exact h.setGenerator trivial
  | next gid trackingId clock now now' =>
    rw [Sessions.apply]
    cases hg : x.generators.get? gid with
    | none => exact h
    | some g =>
      exact h.settled (Generator.resume_fits h.marked (h.generators gid g hg) trackingId clock now now') gid
  | close gid =>
    rw [Sessions.apply]
    cases hg : x.generators.get? gid with
    | none => exact h
    | some g => exact h.settled ⟨.refl hw, Generator.interrupt_fits (h.generators gid g hg)⟩ gid
  | generate prompt maxTokens stream trackingId clock readings =>
    rw [Sessions.apply]
    exact h.withServer (generate_later hw prompt maxTokens stream trackingId clock readings)
  | generateStream prompt maxTokens trackingId clock =>
    rw [Sessions.apply]
    exact h.openStream prompt maxTokens trackingId clock
  | pollStream rid genCount now now' =>
    rw [Sessions.apply]
    cases hs : x.streams.get? rid with
    | none => exact h
    | some stream => exact h.poll hs genCount now now'
  | cancel rid =>
    rw [Sessions.apply]
    exact h.withServer (cancel_later hw rid)
  | step now =>
    rw [Sessions.apply]
    exact h.withServer (step_later hw now)
  | checkTimeouts now =>
    rw [Sessions.apply]
    exact h.withServer (checkTimeouts_later hw now)

end Steps

lemma Tidy.initial (S : Setup ε) : Tidy S { server := ServingLayer.initial S } :=
  ⟨⟨WellFormed.initial S, fun _ h => (by cases h)⟩, fun _ _ h => (by cases h), fun _ _ h => (by cases h)⟩

theorem tidy_run (S : Setup ε) (events : List Event) : Tidy S (run S events) := by
  have hfrom : ∀ (events : List Event) (x : Sessions ε), Tidy S x → Tidy S (events.foldl (Sessions.apply S) x) := by
    intro events
    induction events with
    | nil => exact fun x h => h
    | cons event rest ih => exact fun x h => ih _ (h.apply event)
  exact hfrom events _ (Tidy.initial S)

lemma apply_of_leaves {x : Sessions ε} {event : Event} {rid : RequestId} {trackingId : TrackingId} {finished : Bool}
    {s : ServingState ε} (hb : x.body S event = some (.leaves rid trackingId finished, s)) :
    (x.apply S event).server = closeStream S s rid trackingId finished := by
  cases event with
  | next gid trackingId' clock now now' =>
    obtain ⟨g, hg, he⟩ := Option.map_eq_some_iff.mp hb
    simp only [Sessions.apply, hg, he]
    rfl
  | close gid =>
    obtain ⟨g, hg, he⟩ := Option.map_eq_some_iff.mp hb
    simp only [Sessions.apply, hg, he]
    rfl
  | create => cases hb
  | generate => cases hb
  | generateStream => cases hb
  | pollStream => cases hb
  | cancel => cases hb
  | step => cases hb
  | checkTimeouts => cases hb

theorem disconnect_safe (S : Setup ε) (events : List Event) (event : Event) {rid : RequestId}
    {trackingId : TrackingId} {finished : Bool} {s : ServingState ε}
    (hleaves : (run S events).body S event = some (.leaves rid trackingId finished, s)) :
    Removes s.engine ((run S events).apply S event).server.engine rid := by
  have htidy := tidy_run S events
  have hfits := htidy.body hleaves
  rw [apply_of_leaves hleaves]
  exact closeStream_removes (htidy.marked.later hfits.later) hfits.fits trackingId

def twoGenerators : List Event :=
  [.create 0 ['a'] 3, .next 0 1 {} 0 0, .create 1 ['b'] 3, .next 1 2 {} 0 0, .next 1 2 {} 0 0]

theorem disconnect_safe_of_close :
    let x := run (fakeSetup .default codeHash) twoGenerators
    Removes x.server.engine (x.apply (fakeSetup .default codeHash) (.close 0)).server.engine 0 := by
  have hget : (run (fakeSetup .default codeHash) twoGenerators).generators.get? 0 = some (.polling 0 1 0 false) := by
    decide +kernel
  have hbody : (run (fakeSetup .default codeHash) twoGenerators).body (fakeSetup .default codeHash) (.close 0) =
      some (.leaves 0 1 false, (run (fakeSetup .default codeHash) twoGenerators).server) := by
    rw [body, hget]
    rfl
  exact disconnect_safe (fakeSetup .default codeHash) twoGenerators (.close 0) hbody

end Sessions

end MiniVllm
