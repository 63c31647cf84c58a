import MiniVllm.EngineProofs.Frames
import MiniVllm.ServingProofs.Calls
import MiniVllm.SharingProofs.Hits

/-! What the two ways to make a request add to the counters of the serving layer. -/

namespace MiniVllm

variable {ε : Type} {S : Setup ε}

lemma RateLimiter.check_code (config : Config) (limiter : RateLimiter) (totalTokens : ℤ) (nowRpm nowTpm : ℚ) :
    (limiter.check config totalTokens nowRpm nowTpm).1 = none ∨
      (limiter.check config totalTokens nowRpm nowTpm).1 = some .rateLimitedRpm ∨
      (limiter.check config totalTokens nowRpm nowTpm).1 = some .rateLimitedTpm := by
  rw [check, checkLimits]
  split
  · exact .inr (.inl rfl)
  · split
    · exact .inr (.inr rfl)
    · exact .inl rfl

namespace ServingLayer

def rateVerdict (S : Setup ε) (s : ServingState ε) (prompt : List Char) (maxTokens : ℤ) (clock : Clock) :
    Option ErrorCode :=
  if admissionCheck S s prompt maxTokens = none then
    (s.rateLimiter.check S.config (totalTokens S prompt maxTokens) clock.rpmCheck clock.tpmCheck).1
  else none

structure AddsUp (verdict : Option ErrorCode) (metrics metrics' : MetricsCollector) : Prop where
  once : metrics'.totalRequests = metrics.totalRequests + 1 ∧ metrics'.rejectedRequests = metrics.rejectedRequests ∨
    metrics'.totalRequests = metrics.totalRequests ∧ metrics'.rejectedRequests = metrics.rejectedRequests + 1
  rpm : metrics'.rpmRejected = metrics.rpmRejected + if verdict = some .rateLimitedRpm then 1 else 0
  tpm : metrics'.tpmRejected = metrics.tpmRejected + if verdict = some .rateLimitedTpm then 1 else 0

def Counted (S : Setup ε) (s : ServingState ε) : Call → Prop
  | .generate prompt maxTokens stream trackingId clock readings =>
    AddsUp (rateVerdict S s prompt maxTokens clock) s.engine.metrics
      (apply S s (.generate prompt maxTokens stream trackingId clock readings)).engine.metrics
  | .generateStream prompt maxTokens trackingId clock =>
    AddsUp (rateVerdict S s prompt maxTokens clock) s.engine.metrics
      (apply S s (.generateStream prompt maxTokens trackingId clock)).engine.metrics
  | _ => True

/-- `generate` is not refused for its tokens; `generate_stream` is refused by the admission or by the stream gate. -/
def CountedGate (S : Setup ε) (s : ServingState ε) : Call → Prop
  | .generate prompt maxTokens _ _ clock _ => rateVerdict S s prompt maxTokens clock ≠ some .rateLimitedTpm
  | .generateStream prompt maxTokens trackingId clock =>
    admissionCheck S s prompt maxTokens ≠ none ∨
      rateVerdict S s prompt maxTokens clock = none ∧ (s.streamManager.tryAcquire S.config trackingId).1 = false
  | _ => True

lemma AddsUp.congr {verdict : Option ErrorCode} {metrics metrics' metrics'' : MetricsCollector}
    (h : metrics''.tallies = metrics'.tallies) : AddsUp verdict metrics metrics'' ↔ AddsUp verdict metrics metrics' := by
  simp only [MetricsCollector.tallies, Prod.mk.injEq] at h
  obtain ⟨htotal, hrejected, hrpm, htpm⟩ := h
  constructor <;> rintro ⟨h₁, h₂, h₃⟩ <;> constructor <;> simp_all

lemma generate_tallies (s : ServingState ε) (prompt : List Char) (maxTokens : ℤ) (stream : Bool)
    (trackingId : TrackingId) (clock : Clock) (readings : List ℚ) :
    (generate S s prompt maxTokens stream trackingId clock readings).2.engine.metrics.tallies =
      (generateGates S s prompt maxTokens stream trackingId clock).2.engine.metrics.tallies := by
  cases h : generateGates S s prompt maxTokens stream trackingId clock with
  | mk r s' =>
  cases r with
  | error response => simp only [generate, h]
  | ok engineRid =>
    rw [generate_engine readings h]
    exact LLMEngine.runUntilDone_tallies S readings s'.engine

section Entries

variable (s : ServingState ε) (prompt : List Char) (maxTokens : ℤ) (trackingId : TrackingId) (clock : Clock)

theorem generate_counted_iff (stream : Bool) (readings : List ℚ) :
    AddsUp (rateVerdict S s prompt maxTokens clock) s.engine.metrics
        (generate S s prompt maxTokens stream trackingId clock readings).2.engine.metrics ↔
      rateVerdict S s prompt maxTokens clock ≠ some .rateLimitedTpm := by
  rw [AddsUp.congr (generate_tallies s prompt maxTokens stream trackingId clock readings), rateVerdict, generateGates]
  cases admissionCheck S s prompt maxTokens with
  | some err => exact iff_of_true ⟨.inr ⟨rfl, rfl⟩, rfl, rfl⟩ fun h => by cases h
  | none =>
    rw [if_pos rfl]
    have hcode := s.rateLimiter.check_code S.config (totalTokens S prompt maxTokens) clock.rpmCheck clock.tpmCheck
    generalize s.rateLimiter.check S.config (totalTokens S prompt maxTokens) clock.rpmCheck clock.tpmCheck = r
      at hcode ⊢
    obtain ⟨code, limiter⟩ := r
    rcases hcode with rfl | rfl | rfl
    · dsimp only
      split_ifs
      · exact iff_of_true ⟨.inr ⟨rfl, rfl⟩, rfl, rfl⟩ fun h => by cases h
      · exact iff_of_true ⟨.inl ⟨rfl, rfl⟩, rfl, rfl⟩ fun h => by cases h
      · exact iff_of_true ⟨.inr ⟨rfl, rfl⟩, rfl, rfl⟩ fun h => by cases h
      · exact iff_of_true ⟨.inl ⟨rfl, rfl⟩, rfl, rfl⟩ fun h => by cases h
    · exact iff_of_true ⟨.inr ⟨rfl, rfl⟩, rfl, rfl⟩ fun h => by cases h
    · refine iff_of_false (fun h => ?_) (fun h => h rfl)
      simpa [countRpmRejected, countRejected] using h.rpm

theorem generateStream_counted_iff :
    AddsUp (rateVerdict S s prompt maxTokens clock) s.engine.metrics
        (generateStream S s prompt maxTokens trackingId clock).2.engine.metrics ↔
      admissionCheck S s prompt maxTokens ≠ none ∨
        rateVerdict S s prompt maxTokens clock = none ∧
          (s.streamManager.tryAcquire S.config trackingId).1 = false := by
  rw [rateVerdict, generateStream]
  cases admissionCheck S s prompt maxTokens with
  | some err => exact iff_of_true ⟨.inr ⟨rfl, rfl⟩, rfl, rfl⟩ (.inl fun h => by cases h)
  | none =>
    simp only [ne_eq, not_true, false_or, if_true]
    have hcode := s.rateLimiter.check_code S.config (totalTokens S prompt maxTokens) clock.rpmCheck clock.tpmCheck
    generalize s.rateLimiter.check S.config (totalTokens S prompt maxTokens) clock.rpmCheck clock.tpmCheck = r
      at hcode ⊢
    obtain ⟨code, limiter⟩ := r
    rcases hcode with rfl | rfl | rfl
    · generalize s.streamManager.tryAcquire S.config trackingId = acquired
      obtain ⟨b, manager⟩ := acquired
      cases b with
      | false => exact iff_of_true ⟨.inr ⟨rfl, rfl⟩, rfl, rfl⟩ ⟨rfl, rfl⟩
      | true =>
        refine iff_of_false (fun h => ?_) fun h => by cases h.2
        simpa [submit, LLMEngine.addRequest] using h.once
    · refine iff_of_false (fun h => ?_) fun h => by cases h.1
      simpa [countRejected] using h.rpm
    · refine iff_of_false (fun h => ?_) fun h => by cases h.1
      simpa [countRejected] using h.tpm

end Entries

lemma counted_iff (s : ServingState ε) (call : Call) : Counted S s call ↔ CountedGate S s call := by
  cases call with
  | generate prompt maxTokens stream trackingId clock readings =>
    rw [Counted, apply, CountedGate]
    exact generate_counted_iff s prompt maxTokens trackingId clock stream readings
  | generateStream prompt maxTokens trackingId clock =>
    rw [Counted, apply, CountedGate]
    exact generateStream_counted_iff s prompt maxTokens trackingId clock
  | pollStream => exact Iff.rfl
  | closeStream => exact Iff.rfl
  | cancel => exact Iff.rfl
  | step => exact Iff.rfl
  | checkTimeouts => exact Iff.rfl

theorem counters_add_up_iff (S : Setup ε) (calls : List Call) :
    Throughout (Counted S) S (initial S) calls ↔ Throughout (CountedGate S) S (initial S) calls :=
  Throughout.congr counted_iff calls (initial S)

theorem stream_uncounted : ¬ ∀ (config : Config) (blockHash : List ℕ → ℤ) (calls : List Call),
    Throughout (Counted (fakeSetup config blockHash)) (fakeSetup config blockHash)
      (initial (fakeSetup config blockHash)) calls := by
  intro h
  have hone := (h .default codeHash [.generateStream ['a'] 1 1 {}]).1.once
  revert hone
  decide +kernel

end ServingLayer

end MiniVllm
