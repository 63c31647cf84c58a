import MiniVllm.Library.Leases
import MiniVllm.ServingProofs.Disconnects
import MiniVllm.ServingProofs.Exhaustion

/-! The slots of the streams, over any interleaving of generators and calls. -/

namespace MiniVllm

open EngineCore

variable {ε : Type} {S : Setup ε}

namespace ServingLayer

section Active

variable {s : ServingState ε}

lemma cancel_active (rid : RequestId) : (cancel S s rid).2.streamManager.active = s.streamManager.active := by
  rw [cancel]
  split <;> rfl

lemma closeStream_active (rid : RequestId) (trackingId : TrackingId) (finished : Bool) :
    (closeStream S s rid trackingId finished).streamManager.active = s.streamManager.active.erase trackingId := by
  simp only [closeStream, abort, StreamManager.release]
  split_ifs
  · rfl
  · rfl
  · rw [cancel_active]

lemma pollStream_active (hw : WellFormed S s.engine.core) (rid : RequestId) (trackingId : TrackingId) (genCount : ℕ)
    (now now' : ℚ) :
    (∃ reply s', pollStream S s rid trackingId genCount now now' = (.ok reply, s') ∧ reply.finished = true ∧
        s'.streamManager.active = s.streamManager.active.erase trackingId) ∨
      ∃ r s', pollStream S s rid trackingId genCount now now' = (r, s') ∧
        (∀ reply, r = .ok reply → reply.finished = false) ∧
          s'.streamManager.active = s.streamManager.active := by
  have hpolls := pollStream_spec hw rid trackingId genCount now now'
  cases hp : pollStream S s rid trackingId genCount now now' with
  | mk r s' =>
  rw [hp] at hpolls
  cases hpolls with
  | raised err engine hstep => exact .inr ⟨_, _, rfl, (fun _ h => by cases h), rfl⟩
  | finished result engine sg q hstep hdue hsg hq hst => exact .inl ⟨_, _, rfl, rfl, rfl⟩
  | token result engine q hstep hgone hrun hdec hlt =>
    refine .inr ⟨_, _, rfl, fun reply hreply => ?_, rfl⟩
    cases hreply
    rfl
  | idle result engine hstep hgone =>
    refine .inr ⟨_, _, rfl, fun reply hreply => ?_, rfl⟩
    cases hreply
    rfl

end Active

end ServingLayer

def Generator.lease : Generator → Option (TrackingId × Bool)
  | polling _ trackingId _ finished => some (trackingId, !finished)
  | _ => none

namespace Sessions

open ServingLayer

def streamLease (stream : TrackingId × Bool) : Option (TrackingId × Bool) :=
  if stream.2 then none else some (stream.1, true)

def leases (x : Sessions ε) : RequestId ⊕ ℕ → Option (TrackingId × Bool)
  | .inl rid => (x.streams.get? rid).bind streamLease
  | .inr gid => (x.generators.get? gid).bind Generator.lease

def Unused (x : Sessions ε) (trackingId : TrackingId) : Prop :=
  trackingId ∉ (x.streams.values.filterMap streamLease ++ x.generators.values.filterMap Generator.lease).map Prod.fst

lemma Unused.fresh {x : Sessions ε} {trackingId : TrackingId} (h : x.Unused trackingId) (k : RequestId ⊕ ℕ) (b : Bool) :
    x.leases k ≠ some (trackingId, b) := by
  intro hk
  apply h
  refine List.mem_map.mpr ⟨(trackingId, b), List.mem_append.mpr ?_, rfl⟩
  cases k with
  | inl rid =>
    obtain ⟨stream, hget, hlease⟩ := Option.bind_eq_some_iff.mp hk
    exact .inl (List.mem_filterMap.mpr ⟨stream, (x.streams.mem_values stream).mpr ⟨rid, hget⟩, hlease⟩)
  | inr gid =>
    obtain ⟨g, hget, hlease⟩ := Option.bind_eq_some_iff.mp hk
    exact .inr (List.mem_filterMap.mpr ⟨g, (x.generators.mem_values g).mpr ⟨gid, hget⟩, hlease⟩)

section Updates

variable (x : Sessions ε)

lemma leases_withServer (server : ServingState ε) : (x.withServer server).leases = x.leases := by
  funext k
  cases k <;> rfl

lemma leases_setGenerator (server : ServingState ε) (gid : ℕ) (g : Generator) :
    ({ x with server := server, generators := x.generators.set gid g } : Sessions ε).leases =
      Function.update x.leases (.inr gid) g.lease := by
  funext k
  cases k with
  | inl rid => rfl
  | inr gid' =>
    by_cases he : gid' = gid
    · subst he
      simp [leases]
    · have hne : (Sum.inr gid' : RequestId ⊕ ℕ) ≠ .inr gid := fun h => he (Sum.inr.inj h)
      simp [leases, Function.update_of_ne hne, Dict.get?_set_ne _ _ he]

lemma leases_setStream (server : ServingState ε) (rid : RequestId) (stream : TrackingId × Bool) :
    ({ x with server := server, streams := x.streams.set rid stream } : Sessions ε).leases =
      Function.update x.leases (.inl rid) (streamLease stream) := by
  funext k
  cases k with
  | inl rid' =>
    by_cases he : rid' = rid
    · subst he
      simp [leases]
    · have hne : (Sum.inl rid' : RequestId ⊕ ℕ) ≠ .inl rid := fun h => he (Sum.inl.inj h)
      simp [leases, Function.update_of_ne hne, Dict.get?_set_ne _ _ he]
  | inr gid => rfl

end Updates

structure Capped (S : Setup ε) (s : ServingState ε) : Prop where
  card_le : s.streamManager.active.card ≤ S.config.maxNumStreams

section Capped

variable {s s' : ServingState ε} {trackingId : TrackingId} (h : Capped S s)

include h

lemma Capped.same (hactive : s'.streamManager.active = s.streamManager.active) : Capped S s' := by
  constructor
  rw [hactive]
  exact h.card_le

lemma Capped.erase (hactive : s'.streamManager.active = s.streamManager.active.erase trackingId) : Capped S s' := by
  constructor
  rw [hactive]
  exact Finset.card_erase_le.trans h.card_le

omit h in
lemma capped_of_acquires (hslot : Acquires S trackingId s s') : Capped S s' := by
  constructor
  rw [hslot.active]
  exact (Finset.card_insert_le _ _).trans hslot.room

lemma Capped.generateStream (hw : WellFormed S s.engine.core) (prompt : List Char) (maxTokens : ℤ)
    (trackingId : TrackingId) (clock : Clock) :
    Capped S (ServingLayer.generateStream S s prompt maxTokens trackingId clock).2 := by
  rcases generateStream_opens hw prompt maxTokens trackingId clock with
    ⟨error, s', hstream, -, hsame⟩ | ⟨rid, s', hstream, -, hslot, -, -⟩
  · rw [hstream]
    exact h.same hsame.active
  · rw [hstream]
    exact capped_of_acquires hslot

lemma Capped.pollStream (hw : WellFormed S s.engine.core) (rid : RequestId) (trackingId : TrackingId) (genCount : ℕ)
    (now now' : ℚ) : Capped S (ServingLayer.pollStream S s rid trackingId genCount now now').2 := by
  rcases pollStream_active hw rid trackingId genCount now now' with
    ⟨reply, s', hp, -, hactive⟩ | ⟨r, s', hp, -, hactive⟩
  · rw [hp]
    exact h.erase hactive
  · rw [hp]
    exact h.same hactive

lemma Capped.generate (prompt : List Char) (maxTokens : ℤ) (stream : Bool) (trackingId : TrackingId) (clock : Clock)
    (readings : List ℚ) :
    Capped S (ServingLayer.generate S s prompt maxTokens stream trackingId clock readings).2 := by
  rcases generateGates_slots (S := S) s prompt maxTokens trackingId clock stream with
    ⟨response, s', hgates, hsame⟩ | ⟨engineRid, s', hgates, hslots⟩
  · simp only [ServingLayer.generate, hgates]
    exact h.same hsame.active
  · have hcapped : Capped S s' := by
      cases stream with
      | false => exact h.same hslots.active
      | true => exact capped_of_acquires hslots
    obtain ⟨-, hactive | ⟨-, hactive⟩, -⟩ := generate_slots readings hgates
    · exact hcapped.same hactive
    · exact hcapped.erase hactive

lemma Capped.poll (hw : WellFormed S s.engine.core) (rid : RequestId) (trackingId : TrackingId) (genCount : ℕ)
    (now now' : ℚ) : Capped S (Generator.poll S s rid trackingId genCount now now').2 := by
  have hpoll := h.pollStream hw rid trackingId genCount now now'
  rw [Generator.poll]
  split <;> rename_i he <;> rw [he] at hpoll <;> exact hpoll

lemma Capped.resume (hw : WellFormed S s.engine.core) (trackingId : TrackingId) (clock : Clock) (now now' : ℚ)
    (g : Generator) : Capped S (Generator.resume S s trackingId clock now now' g).2 := by
  cases g with
  | created prompt maxTokens =>
    have hstream := h.generateStream hw prompt maxTokens trackingId clock
    have hlater := generateStream_later hw prompt maxTokens trackingId clock
    rw [Generator.resume]
    split <;> rename_i he <;> rw [he] at hstream hlater
    · exact hstream
    · exact hstream.poll hlater.wellFormed _ _ _ _ _
  | refused => exact h
  | polling rid trackingId' genCount finished =>
    rw [Generator.resume]
    split_ifs
    · exact h
    · exact h.poll hw rid trackingId' genCount now now'
  | closed => exact h

lemma Capped.settle (outcome : Outcome) : Capped S (Generator.settle S s outcome).2 := by
  cases outcome with
  | suspends => exact h
  | leaves rid trackingId finished => exact h.erase (closeStream_active rid trackingId finished)
  | ends => exact h

end Capped

structure Settles (S : Setup ε) (leases : RequestId ⊕ ℕ → Option (TrackingId × Bool)) (gid : ℕ)
    (body : Outcome × ServingState ε) : Prop where
  held : Held (Function.update leases (.inr gid) (Generator.settle S body.2 body.1).1.lease)
    (Generator.settle S body.2 body.1).2.streamManager.active

section Body

variable {leases : RequestId ⊕ ℕ → Option (TrackingId × Bool)} {s : ServingState ε} {gid : ℕ}
  {trackingId : TrackingId}

lemma held_leaves {b : Bool} (h : Held leases s.streamManager.active)
    (hk : leases (.inr gid) = some (trackingId, b)) (rid : RequestId) (finished : Bool) :
    Settles S leases gid (.leaves rid trackingId finished, s) := by
  constructor
  simp only [Generator.settle, closeStream_active]
  exact h.release hk (.inl rfl)

lemma held_suspends {g : Generator} (h : Held leases s.streamManager.active) (hk : leases (.inr gid) = g.lease) :
    Settles S leases gid (.suspends g, s) := by
  constructor
  simp only [Generator.settle]
  rw [← hk, Function.update_eq_self]
  exact h

lemma held_ends (h : Held leases s.streamManager.active) (hk : leases (.inr gid) = none) :
    Settles S leases gid (.ends, s) := by
  constructor
  simp only [Generator.settle, Generator.lease]
  rw [← hk, Function.update_eq_self]
  exact h

lemma held_poll (hw : WellFormed S s.engine.core) (h : Held leases s.streamManager.active)
    (hk : leases (.inr gid) = some (trackingId, true)) (rid : RequestId) (genCount : ℕ) (now now' : ℚ) :
    Settles S leases gid (Generator.poll S s rid trackingId genCount now now') := by
  rw [Generator.poll]
  rcases pollStream_active hw rid trackingId genCount now now' with
    ⟨reply, s', hp, hfin, hactive⟩ | ⟨r, s', hp, hfin, hactive⟩
  · rw [hp]
    constructor
    simp only [Generator.settle, Generator.lease, hfin, hactive]
    exact h.release hk (.inr rfl)
  · rw [hp]
    rw [← hactive] at h
    cases r with
    | error err => exact held_leaves h hk rid false
    | ok reply =>
      apply held_suspends h
      rw [hk, Generator.lease, hfin reply rfl, Bool.not_false]

end Body

def loopReturns (S : Setup ε) (readings : List ℚ) (s : EngineState ε) : Bool :=
  match (LLMEngine.runUntilDone S readings s).1 with
  | some (.ok _) => true
  | _ => false

/-- A call that takes a slot draws a tracking id that is not in use, and a streamed `generate` comes back from its
loop. -/
def Careful (S : Setup ε) (x : Sessions ε) : Event → Prop
  | .next gid trackingId clock _ _ =>
    match x.generators.get? gid with
    | some (.created prompt maxTokens) =>
      (generateStream S x.server prompt maxTokens trackingId clock).1.isOk = true → x.Unused trackingId
    | _ => True
  | .generateStream prompt maxTokens trackingId clock =>
    (generateStream S x.server prompt maxTokens trackingId clock).1.isOk = true → x.Unused trackingId
  | .generate prompt maxTokens stream trackingId clock readings =>
    stream = true → (generateGates S x.server prompt maxTokens stream trackingId clock).1.isOk = true →
      x.Unused trackingId ∧
        loopReturns S readings (generateGates S x.server prompt maxTokens stream trackingId clock).2.engine = true
  | _ => True

def CarefulRun (S : Setup ε) : Sessions ε → List Event → Prop
  | _, [] => True
  | x, event :: events => x.Careful S event ∧ CarefulRun S (x.apply S event) events

section Steps

variable {x : Sessions ε} (htidy : Tidy S x) (h : Held x.leases x.server.streamManager.active)

include htidy h

omit htidy h in
lemma Settles.settled {gid : ℕ} {body : Outcome × ServingState ε} (h : Settles S x.leases gid body) :
    Held (x.settled S gid body).leases (x.settled S gid body).server.streamManager.active := by
  simp only [Sessions.settled, leases_setGenerator]
  exact h.held

lemma held_next {gid : ℕ} {g : Generator} (hg : x.generators.get? gid = some g) (trackingId : TrackingId)
    (clock : Clock) (now now' : ℚ) (hcareful : x.Careful S (.next gid trackingId clock now now')) :
    Settles S x.leases gid (Generator.resume S x.server trackingId clock now now' g) := by
  have hw := htidy.marked.wellFormed
  have hlease : x.leases (.inr gid) = g.lease := by rw [leases, hg, Option.bind_some]
  rw [Generator.resume.eq_def]
  cases g with
  | created prompt maxTokens =>
    simp only [Careful, hg] at hcareful
    rcases generateStream_opens hw prompt maxTokens trackingId clock with
      ⟨error, s', hstream, hlater, hsame⟩ | ⟨rid, s', hstream, hlater, hslot, -, -⟩
    · simp only [hstream]
      rw [← hsame.active] at h
      exact held_suspends h hlease
    · rw [hstream] at hcareful
      simp only [hstream]
      have hheld := h.acquire (hcareful rfl).fresh hlease
      rw [← hslot.active] at hheld
      have hpoll := (held_poll (S := S) hlater.wellFormed hheld (Function.update_self _ _ _) rid 0 now now').held
      rw [Function.update_idem] at hpoll
      exact ⟨hpoll⟩
  | refused => exact held_ends h hlease
  | polling rid trackingId' genCount finished =>
    dsimp only
    split_ifs with hfin
    · exact held_leaves h hlease rid true
    · rw [Bool.not_eq_true] at hfin
      rw [hfin] at hlease
      exact held_poll hw h hlease rid genCount now now'
  | closed => exact held_ends h hlease

omit htidy in
lemma held_close {gid : ℕ} {g : Generator} (hg : x.generators.get? gid = some g) :
    Settles S x.leases gid (g.interrupt, x.server) := by
  have hlease : x.leases (.inr gid) = g.lease := by rw [leases, hg, Option.bind_some]
  cases g with
  | polling rid trackingId genCount finished => exact held_leaves h hlease rid finished
  | created => exact held_ends h hlease
  | refused => exact held_ends h hlease
  | closed => exact held_ends h hlease

lemma held_openStream (prompt : List Char) (maxTokens : ℤ) (trackingId : TrackingId) (clock : Clock)
    (hcareful : x.Careful S (.generateStream prompt maxTokens trackingId clock)) :
    Held (x.openStream S prompt maxTokens trackingId clock).leases
      (x.openStream S prompt maxTokens trackingId clock).server.streamManager.active := by
  rw [Careful] at hcareful
  rw [openStream]
  rcases generateStream_opens htidy.marked.wellFormed prompt maxTokens trackingId clock with
    ⟨error, s', hstream, -, hsame⟩ | ⟨rid, s', hstream, -, hslot, hrid, -⟩
  · rw [hstream]
    dsimp only
    rw [hsame.active]
    exact h
  · rw [hstream] at hcareful ⊢
    have hnone : x.leases (.inl rid) = none := by
      rw [leases]
      cases hget : x.streams.get? rid with
      | none => rfl
      | some stream => exact absurd (htidy.streams rid stream hget).1 (by rw [hrid]; exact Nat.lt_irrefl _)
    simp only [leases_setStream, hslot.active]
    exact h.acquire (hcareful rfl).fresh hnone

lemma held_pollStream {rid : RequestId} {stream : TrackingId × Bool} (hs : x.streams.get? rid = some stream)
    (genCount : ℕ) (now now' : ℚ) :
    Held (x.poll S rid stream genCount now now').leases
      (x.poll S rid stream genCount now now').server.streamManager.active := by
  have hw := htidy.marked.wellFormed
  have hfollows := htidy.streams rid stream hs
  have hlease : x.leases (.inl rid) = streamLease stream := by rw [leases, hs, Option.bind_some]
  obtain ⟨trackingId, finished⟩ := stream
  rw [poll]
  cases finished with
  | true =>
    obtain ⟨hreply, hactive⟩ := pollStream_dead hw (hfollows.2 rfl).dead trackingId genCount now now'
    cases hp : pollStream S x.server rid trackingId genCount now now' with
    | mk r s' =>
    rw [hp] at hreply hactive
    rw [← hactive] at h
    cases r with
    | error err => exact h
    | ok reply =>
      simp only [leases_setStream, Bool.true_or]
      rw [← hlease, Function.update_eq_self]
      exact h
  | false =>
    rcases pollStream_active hw rid trackingId genCount now now' with
      ⟨reply, s', hp, hfin, hactive⟩ | ⟨r, s', hp, hfin, hactive⟩
    · rw [hp]
      simp only [leases_setStream, Bool.false_or, hfin, hactive]
      exact h.release hlease (.inl rfl)
    · rw [hp]
      rw [← hactive] at h
      cases r with
      | error err => exact h
      | ok reply =>
        simp only [leases_setStream, Bool.false_or, hfin reply rfl]
        rw [← hlease, Function.update_eq_self]
        exact h

omit htidy in
lemma generate_active (prompt : List Char) (maxTokens : ℤ) (stream : Bool) (trackingId : TrackingId) (clock : Clock)
    (readings : List ℚ) (hcareful : x.Careful S (.generate prompt maxTokens stream trackingId clock readings)) :
    (generate S x.server prompt maxTokens stream trackingId clock readings).2.streamManager.active =
      x.server.streamManager.active := by
  rw [Careful] at hcareful
  rcases generateGates_slots (S := S) x.server prompt maxTokens trackingId clock stream with
    ⟨response, s', hgates, hsame⟩ | ⟨engineRid, s', hgates, hslots⟩
  · simp only [generate, hgates]
    exact hsame.active
  · obtain ⟨-, hactive, hreturn⟩ := generate_slots readings hgates
    cases stream with
    | false =>
      rcases hactive with hsame | ⟨hstream, -⟩
      · exact hsame.trans hslots.active
      · cases hstream
    | true =>
      rw [hgates] at hcareful
      obtain ⟨hunused, hloop⟩ := hcareful rfl rfl
      have hok : ∃ outputs, (LLMEngine.runUntilDone S readings s'.engine).1 = some (.ok outputs) := by
        rw [loopReturns] at hloop
        split at hloop
        · rename_i outputs he
          exact ⟨outputs, he⟩
        · cases hloop
      obtain ⟨outputs, houtputs⟩ := hok
      rw [hreturn outputs houtputs rfl, hslots.active]
      exact h.erase_insert hunused.fresh

theorem held_apply (event : Event) (hcareful : x.Careful S event) :
    Held (x.apply S event).leases (x.apply S event).server.streamManager.active := by
  cases event with
  | create gid prompt maxTokens =>
    rw [Sessions.apply]
    split_ifs with hget
    · exact h
    · have hnone : x.leases (.inr gid) = none := by
        rw [Dict.contains, Bool.not_eq_true, Option.isSome_eq_false_iff, Option.isNone_iff_eq_none] at hget
        rw [leases, hget, Option.bind_none]
      have hcreated : (Generator.created prompt maxTokens).lease = none := rfl
      rw [leases_setGenerator, hcreated, ← hnone, Function.update_eq_self]
      exact h
  | next gid trackingId clock now now' =>
    rw [Sessions.apply]
    cases hg : x.generators.get? gid with
    | none => exact h
    | some g => exact (held_next htidy h hg trackingId clock now now' hcareful).settled
  | close gid =>
    rw [Sessions.apply]
    cases hg : x.generators.get? gid with
    | none => exact h
    | some g => exact (held_close h hg).settled
  | generate prompt maxTokens stream trackingId clock readings =>
    rw [Sessions.apply, leases_withServer]
    have hsame := generate_active h prompt maxTokens stream trackingId clock readings hcareful
    rw [← hsame] at h
    exact h
  | generateStream prompt maxTokens trackingId clock =>
    rw [Sessions.apply]
    exact held_openStream htidy h prompt maxTokens trackingId clock hcareful
  | pollStream rid genCount now now' =>
    rw [Sessions.apply]
    cases hs : x.streams.get? rid with
    | none => exact h
    | some stream =>
      have hpoll := held_pollStream htidy h hs genCount now now'
      dsimp only
      exact hpoll
  | cancel rid =>
    rw [Sessions.apply, leases_withServer]
    rw [← cancel_active (S := S) rid] at h
    exact h
  | step now =>
    have hsame : (ServingLayer.apply S x.server (.step now)).streamManager = x.server.streamManager := by
      rw [ServingLayer.apply]
    rw [Sessions.apply, leases_withServer]
    simp only [withServer, hsame]
    exact h
  | checkTimeouts now =>
    have hsame : (ServingLayer.apply S x.server (.checkTimeouts now)).streamManager = x.server.streamManager := by
      rw [ServingLayer.apply]
    rw [Sessions.apply, leases_withServer]
    simp only [withServer, hsame]
    exact h

end Steps

theorem Capped.apply {x : Sessions ε} (htidy : Tidy S x) (h : Capped S x.server) (event : Event) :
    Capped S (x.apply S event).server := by
  have hw := htidy.marked.wellFormed
  cases event with
  | create =>
    rw [Sessions.apply]
    split_ifs <;> exact h
  | next gid trackingId clock now now' =>
    rw [Sessions.apply]
    cases x.generators.get? gid with
    | none => exact h
    | some g => exact (h.resume hw trackingId clock now now' g).settle _
  | close gid =>
    rw [Sessions.apply]
    cases x.generators.get? gid with
    | none => exact h
    | some g => exact h.settle _
  | generate prompt maxTokens stream trackingId clock readings =>
    rw [Sessions.apply]
    exact h.generate prompt maxTokens stream trackingId clock readings
  | generateStream prompt maxTokens trackingId clock =>
    have hstream := h.generateStream hw prompt maxTokens trackingId clock
    rw [Sessions.apply, openStream]
    split <;> rename_i he <;> rw [he] at hstream <;> exact hstream
  | pollStream rid genCount now now' =>
    rw [Sessions.apply]
    cases x.streams.get? rid with
    | none => exact h
    | some stream =>
      have hpoll := h.pollStream hw rid stream.1 genCount now now'
      simp only [Sessions.poll]
      split <;> rename_i he <;> rw [he] at hpoll <;> exact hpoll
  | cancel rid =>
    rw [Sessions.apply]
    exact h.same (cancel_active rid)
  | step now =>
    rw [Sessions.apply, ServingLayer.apply]
    exact h.same rfl
  | checkTimeouts now =>
    rw [Sessions.apply, ServingLayer.apply]
    exact h.same rfl

lemma capped_run (S : Setup ε) (events : List Event) : Capped S (run S events).server := by
  have hfrom : ∀ (events : List Event) (x : Sessions ε), Tidy S x → Capped S x.server →
      Capped S (events.foldl (Sessions.apply S) x).server := by
    intro events
    induction events with
    | nil => exact fun x _ h => h
    | cons event rest ih => exact fun x htidy h => ih _ (htidy.apply event) (h.apply htidy event)
  exact hfrom events _ (Tidy.initial S) ⟨Nat.zero_le _⟩

lemma held_run (S : Setup ε) (events : List Event)
    (hcareful : CarefulRun S { server := ServingLayer.initial S } events) :
    Held (run S events).leases (run S events).server.streamManager.active := by
  have hfrom : ∀ (events : List Event) (x : Sessions ε), Tidy S x → Held x.leases x.server.streamManager.active →
      CarefulRun S x events → Held (events.foldl (Sessions.apply S) x).leases
        (events.foldl (Sessions.apply S) x).server.streamManager.active := by
    intro events
    induction events with
    | nil => exact fun x _ h _ => h
    | cons event rest ih =>
      exact fun x htidy h hc => ih _ (htidy.apply event) (held_apply htidy h event hc.1) hc.2
  refine hfrom events _ (Tidy.initial S) ?_ hcareful
  have hnone : ({ server := ServingLayer.initial S } : Sessions ε).leases = fun _ => none := by
    funext k
    cases k <;> rfl
  rw [hnone]
  exact Held.nobody

theorem slots_conserved (S : Setup ε) (events : List Event) :
    (run S events).server.streamManager.active.card ≤ S.config.maxNumStreams ∧
      (CarefulRun S { server := ServingLayer.initial S } events →
        Held (run S events).leases (run S events).server.streamManager.active) :=
  ⟨(capped_run S events).card_le, held_run S events⟩

section Decidable

instance (x : Sessions ε) (trackingId : TrackingId) : Decidable (x.Unused trackingId) :=
  inferInstanceAs (Decidable (_ ∉ _))

instance (x : Sessions ε) : (event : Event) → Decidable (x.Careful S event)
  | .next gid trackingId clock _ _ =>
    have : Decidable (match x.generators.get? gid with
        | some (.created prompt maxTokens) =>
          (generateStream S x.server prompt maxTokens trackingId clock).1.isOk = true → x.Unused trackingId
        | _ => True) :=
      match x.generators.get? gid with
      | some (.created _ _) => inferInstanceAs (Decidable (_ → _))
      | some .refused => isTrue trivial
      | some (.polling _ _ _ _) => isTrue trivial
      | some .closed => isTrue trivial
      | none => isTrue trivial
    this
  | .generateStream _ _ _ _ => inferInstanceAs (Decidable (_ → _))
  | .generate _ _ _ _ _ _ => inferInstanceAs (Decidable (_ → _ → _ ∧ _))
  | .create _ _ _ => isTrue trivial
  | .close _ => isTrue trivial
  | .pollStream _ _ _ _ => isTrue trivial
  | .cancel _ => isTrue trivial
  | .step _ => isTrue trivial
  | .checkTimeouts _ => isTrue trivial

instance decidableCarefulRun : (x : Sessions ε) → (events : List Event) → Decidable (CarefulRun S x events)
  | _, [] => isTrue trivial
  | x, event :: events =>
    have := decidableCarefulRun (x.apply S event) events
    inferInstanceAs (Decidable (_ ∧ _))

end Decidable

def carefulEvents : List Event :=
  [.create 0 ['a'] 2, .next 0 1 {} 0 0, .generateStream ['b'] 1 2 {}, .generate ['a'] 1 true 3 {} [0, 0, 0],
    .close 0, .pollStream 1 0 0 0]

theorem slots_conserved_of_careful :
    Held (run (fakeSetup .default codeHash) carefulEvents).leases
      (run (fakeSetup .default codeHash) carefulEvents).server.streamManager.active :=
  (slots_conserved (fakeSetup .default codeHash) carefulEvents).2 (by decide +kernel)

def leakingEvents : List Event := [.generateStream ['a'] 3 1 {}, .generate ['b'] 3 true 2 {} [0, 0, 0, 0]]

theorem generate_leaks_slot : ¬ ∀ (config : Config) (blockHash : List ℕ → ℤ) (events : List Event),
    Held (run (fakeSetup config blockHash) events).leases
      (run (fakeSetup config blockHash) events).server.streamManager.active := by
  intro h
  have hmem := ((h fourBlocks codeHash leakingEvents).mem_iff 2).mp (by decide +kernel)
  obtain ⟨k, hk⟩ := hmem
  have hunused : (run (fakeSetup fourBlocks codeHash) leakingEvents).Unused 2 := by decide +kernel
  exact hunused.fresh k true hk

end Sessions

end MiniVllm
