import MiniVllm.Library.SlidingWindow
import MiniVllm.Serving.Gates

/-! The limiter alone: requests that check it and are recorded if they pass, on a clock that never goes back. -/

namespace MiniVllm

namespace SlidingWindowCounter

def fits (limit : ℕ) : SlidingWindowCounter → List ℚ → Prop
  | _, [] => True
  | counter, t :: times => (counter.wouldExceed t limit).1 = false ∧ fits limit (counter.record t) times

structure Counts (counter : SlidingWindowCounter) (history : List ℚ) (now : ℚ) : Prop where
  window : counter.window = 60
  past : ∀ e ∈ history, e ≤ now
  since_eq : ∀ t, now - 60 ≤ t → since t counter.events = since t history

namespace Counts

variable {counter : SlidingWindowCounter} {history : List ℚ} {now now' : ℚ} (h : Counts counter history now)

include h

lemma later (hle : now ≤ now') : Counts counter history now' := by
  refine ⟨h.window, fun e he => (h.past e he).trans hle, fun t ht => ?_⟩
  apply h.since_eq
  linarith

lemma wouldExceed_iff (limit : ℕ) : (counter.wouldExceed now limit).1 = true ↔ limit ≤ since (now - 60) history := by
  rw [← h.since_eq (now - 60) (le_refl _), since_eq_length]
  simp only [wouldExceed, purge, h.window, decide_eq_true_eq]

lemma after_wouldExceed (limit : ℕ) : Counts (counter.wouldExceed now limit).2 history now := by
  refine ⟨h.window, h.past, fun t ht => ?_⟩
  rw [← h.since_eq t ht]
  simp only [wouldExceed, purge, h.window]
  exact since_purge _ ht

lemma still_fits {counter' : SlidingWindowCounter} {limit : ℕ} (h' : Counts counter' history now') (hle : now ≤ now')
    (hfits : (counter.wouldExceed now limit).1 = false) : (counter'.wouldExceed now' limit).1 = false := by
  rw [← Bool.not_eq_true, h.wouldExceed_iff] at hfits
  rw [← Bool.not_eq_true, h'.wouldExceed_iff]
  have hdrop : since (now' - 60) history ≤ since (now - 60) history := by
    apply since_le
    linarith
  omega

lemma record : Counts (counter.record now) (history ++ [now]) now := by
  refine ⟨h.window, fun e he => ?_, fun t ht => ?_⟩
  · rcases List.mem_append.mp he with he | he
    · exact h.past e he
    · exact (List.mem_singleton.mp he).le
  · have hold := h.since_eq t ht
    rw [since] at hold ⊢
    rw [since] at hold ⊢
    simp only [SlidingWindowCounter.record, List.countP_append, hold]

lemma concat_iff (limit : ℕ) : WindowsHold 60 limit (history ++ [now]) ↔
    WindowsHold 60 limit history ∧ (counter.wouldExceed now limit).1 = false := by
  rw [WindowsHold.concat_iff (by norm_num) h.past, ← not_le, ← h.wouldExceed_iff, Bool.not_eq_true]

omit h in
lemma records {times : List ℚ} (h : Counts counter history now) (hsorted : (now :: times).Pairwise (· ≤ ·)) :
    Counts (times.foldl SlidingWindowCounter.record counter) (history ++ times) ((now :: times).getLast (by simp)) := by
  induction times generalizing counter history now with
  | nil => simpa using h
  | cons t rest ih =>
    have hle : now ≤ t := by
      apply List.rel_of_pairwise_cons hsorted
      simp
    have hrest := ih (h.later hle).record hsorted.of_cons
    rw [List.append_assoc, List.singleton_append] at hrest
    exact hrest

omit h in
lemma windowsHold_iff {times : List ℚ} (limit : ℕ) (h : Counts counter history now)
    (hsorted : (now :: times).Pairwise (· ≤ ·)) :
    WindowsHold 60 limit (history ++ times) ↔ WindowsHold 60 limit history ∧ counter.fits limit times := by
  induction times generalizing counter history now with
  | nil => simp [fits]
  | cons t rest ih =>
    have hle : now ≤ t := by
      apply List.rel_of_pairwise_cons hsorted
      simp
    have hrest := ih (h.later hle).record hsorted.of_cons
    rw [List.append_assoc, List.singleton_append, (h.later hle).concat_iff, and_assoc] at hrest
    exact hrest

end Counts

end SlidingWindowCounter

namespace RateLimiter

lemma checkLimits_cases (rpmLimit tpmLimit : ℕ) (limiter : RateLimiter) (totalTokens : ℤ) (nowRpm nowTpm : ℚ) :
    ((limiter.rpm.wouldExceed nowRpm rpmLimit).1 = true ∧
      limiter.checkLimits rpmLimit tpmLimit totalTokens nowRpm nowTpm =
        (some .rateLimitedRpm, ⟨(limiter.rpm.wouldExceed nowRpm rpmLimit).2, limiter.tpm⟩)) ∨
    ((limiter.rpm.wouldExceed nowRpm rpmLimit).1 = false ∧
      limiter.checkLimits rpmLimit tpmLimit totalTokens nowRpm nowTpm =
        (if (limiter.tpm.wouldExceed nowTpm tpmLimit).1 then some .rateLimitedTpm else none,
          ⟨(limiter.rpm.wouldExceed nowRpm rpmLimit).2, (limiter.tpm.wouldExceed nowTpm tpmLimit).2⟩)) := by
  rw [checkLimits]
  split <;> rename_i hrpm
  · left
    simp [hrpm]
  · right
    split <;> rename_i htpm <;> simp [hrpm, htpm]

end RateLimiter

structure LimiterRun where
  limiter : RateLimiter := {}
  ticks : ℕ := 0
  requests : List ℚ := []
  tokens : List ℚ := []

namespace LimiterRun

variable (rpmLimit tpmLimit : ℕ) (clock : ℕ → ℚ)

def tokenTimes (tick : ℕ) (totalTokens : ℤ) : List ℚ :=
  (List.range totalTokens.toNat).map (fun i => clock (tick + i))

abbrev check (r : LimiterRun) (totalTokens : ℤ) : Option ErrorCode × RateLimiter :=
  r.limiter.checkLimits rpmLimit tpmLimit totalTokens (clock r.ticks) (clock (r.ticks + 1))

def attempt (r : LimiterRun) (totalTokens : ℤ) : LimiterRun :=
  match r.check rpmLimit tpmLimit clock totalTokens with
  | (some .rateLimitedRpm, limiter) => { r with limiter := limiter, ticks := r.ticks + 1 }
  | (some _, limiter) => { r with limiter := limiter, ticks := r.ticks + 2 }
  | (none, limiter) =>
    { limiter := limiter.record totalTokens (clock (r.ticks + 2)) (fun i => clock (r.ticks + 3 + i))
      ticks := r.ticks + 3 + totalTokens.toNat
      requests := r.requests ++ [clock (r.ticks + 2)]
      tokens := r.tokens ++ tokenTimes clock (r.ticks + 3) totalTokens }

def run (totals : List ℤ) : LimiterRun := totals.foldl (attempt rpmLimit tpmLimit clock) {}

/-- The tokens of each request that the check lets in fit, one by one, into what the last minute leaves. -/
def Fits : LimiterRun → List ℤ → Prop
  | _, [] => True
  | r, totalTokens :: rest =>
    (match r.check rpmLimit tpmLimit clock totalTokens with
      | (some _, _) => True
      | (none, limiter) => limiter.tpm.fits tpmLimit (tokenTimes clock (r.ticks + 3) totalTokens)) ∧
      Fits (attempt rpmLimit tpmLimit clock r totalTokens) rest

open SlidingWindowCounter

structure Tracks (r : LimiterRun) : Prop where
  requests : Counts r.limiter.rpm r.requests (clock r.ticks)
  tokens : Counts r.limiter.tpm r.tokens (clock r.ticks)

section Tokens

variable {clock} (hclock : Monotone clock) (tick : ℕ) (totalTokens : ℤ)

include hclock

lemma tokenTimes_sorted : (clock tick :: tokenTimes clock tick totalTokens).Pairwise (· ≤ ·) := by
  refine List.pairwise_cons.mpr ⟨fun t ht => ?_, ?_⟩
  · obtain ⟨i, -, rfl⟩ := List.mem_map.mp ht
    apply hclock
    exact Nat.le_add_right tick i
  · refine List.pairwise_map.mpr (List.pairwise_lt_range.imp fun hij => ?_)
    apply hclock
    omega

lemma tokenTimes_last :
    (clock tick :: tokenTimes clock tick totalTokens).getLast (by simp) ≤ clock (tick + totalTokens.toNat) := by
  rcases List.mem_cons.mp (List.getLast_mem (l := clock tick :: tokenTimes clock tick totalTokens) (by simp)) with
    hlast | hlast
  · rw [hlast]
    apply hclock
    exact Nat.le_add_right tick _
  · obtain ⟨i, hi, heq⟩ := List.mem_map.mp hlast
    rw [← heq]
    apply hclock
    have := List.mem_range.mp hi
    omega

end Tokens

lemma tracks_initial : Tracks clock {} := by
  constructor <;> exact ⟨rfl, by simp, fun _ _ => rfl⟩

section Attempts

variable {clock} {r : LimiterRun} (hclock : Monotone clock) (h : Tracks clock r)

include hclock h

lemma Tracks.after_rpm {n : ℕ} (hn : r.ticks ≤ n) :
    Counts (r.limiter.rpm.wouldExceed (clock r.ticks) rpmLimit).2 r.requests (clock n) := by
  apply (h.requests.after_wouldExceed rpmLimit).later
  exact hclock hn

lemma Tracks.after_tpm {n : ℕ} (hn : r.ticks + 1 ≤ n) :
    Counts (r.limiter.tpm.wouldExceed (clock (r.ticks + 1)) tpmLimit).2 r.tokens (clock n) := by
  have htokens := h.tokens.later (hclock (Nat.le_add_right r.ticks 1))
  apply (htokens.after_wouldExceed tpmLimit).later
  exact hclock hn

lemma Tracks.attempt (totalTokens : ℤ) :
    Tracks clock (attempt rpmLimit tpmLimit clock r totalTokens) ∧
      (WindowsHold 60 rpmLimit r.requests →
        WindowsHold 60 rpmLimit (attempt rpmLimit tpmLimit clock r totalTokens).requests) ∧
      (WindowsHold 60 tpmLimit (attempt rpmLimit tpmLimit clock r totalTokens).tokens ↔
        WindowsHold 60 tpmLimit r.tokens ∧
          match r.check rpmLimit tpmLimit clock totalTokens with
          | (some _, _) => True
          | (none, limiter) => limiter.tpm.fits tpmLimit (tokenTimes clock (r.ticks + 3) totalTokens)) := by
  have hlater : clock r.ticks ≤ clock (r.ticks + 2) := hclock (Nat.le_add_right r.ticks 2)
  rcases RateLimiter.checkLimits_cases rpmLimit tpmLimit r.limiter totalTokens (clock r.ticks)
    (clock (r.ticks + 1)) with ⟨hrpm, hcheck⟩ | ⟨hrpm, hcheck⟩
  · simp only [LimiterRun.attempt, LimiterRun.check, hcheck, and_true]
    refine ⟨⟨h.after_rpm rpmLimit hclock (Nat.le_succ _), ?_⟩, id⟩
    exact h.tokens.later (hclock (Nat.le_succ _))
  cases htpm : (r.limiter.tpm.wouldExceed (clock (r.ticks + 1)) tpmLimit).1
  · simp only [htpm, Bool.false_eq_true, if_false] at hcheck
    have hrequests := h.after_rpm rpmLimit hclock (Nat.le_add_right r.ticks 2)
    have htokens := h.after_tpm tpmLimit hclock (n := r.ticks + 3) (by omega)
    have hsorted := tokenTimes_sorted hclock (r.ticks + 3) totalTokens
    simp only [LimiterRun.attempt, LimiterRun.check, hcheck]
    refine ⟨⟨?_, ?_⟩, fun hwindows => ?_, ?_⟩
    · apply hrequests.record.later
      apply hclock
      exact (Nat.le_succ _).trans (Nat.le_add_right _ _)
    · apply (htokens.records hsorted).later
      exact tokenTimes_last hclock _ _
    · exact (hrequests.concat_iff rpmLimit).mpr ⟨hwindows, h.requests.still_fits hrequests hlater hrpm⟩
    · exact htokens.windowsHold_iff tpmLimit hsorted
  · simp only [htpm, if_true] at hcheck
    simp only [LimiterRun.attempt, LimiterRun.check, hcheck, and_true]
    exact ⟨⟨h.after_rpm rpmLimit hclock (Nat.le_add_right _ 2), h.after_tpm tpmLimit hclock (Nat.le_succ _)⟩, id⟩

omit hclock in
lemma Tracks.window_full (hwindows : WindowsHold 60 rpmLimit r.requests) (totalTokens : ℤ)
    (hlimited : (r.check rpmLimit tpmLimit clock totalTokens).1 = some .rateLimitedRpm) :
    r.requests.countP (fun e => clock r.ticks - 60 < e ∧ e ≤ clock r.ticks) = rpmLimit := by
  have hexceeds : (r.limiter.rpm.wouldExceed (clock r.ticks) rpmLimit).1 = true := by
    rcases RateLimiter.checkLimits_cases rpmLimit tpmLimit r.limiter totalTokens (clock r.ticks)
      (clock (r.ticks + 1)) with ⟨hrpm, -⟩ | ⟨-, hcheck⟩
    · exact hrpm
    · simp only [LimiterRun.check, hcheck] at hlimited
      split at hlimited <;> simp at hlimited
  have hlimit := (h.requests.wouldExceed_iff rpmLimit).mp hexceeds
  rw [← since_eq_window h.requests.past] at hlimit
  have hend := hwindows.to_end (clock r.ticks - 60)
  rw [sub_add_cancel] at hlimit hend
  exact le_antisymm hend hlimit

lemma Tracks.attempts (totals : List ℤ) (hrequests : WindowsHold 60 rpmLimit r.requests) :
    Tracks clock (totals.foldl (LimiterRun.attempt rpmLimit tpmLimit clock) r) ∧
      WindowsHold 60 rpmLimit (totals.foldl (LimiterRun.attempt rpmLimit tpmLimit clock) r).requests ∧
      (WindowsHold 60 tpmLimit (totals.foldl (LimiterRun.attempt rpmLimit tpmLimit clock) r).tokens ↔
        WindowsHold 60 tpmLimit r.tokens ∧ Fits rpmLimit tpmLimit clock r totals) := by
  induction totals generalizing r with
  | nil => exact ⟨h, hrequests, by simp [Fits]⟩
  | cons totalTokens rest ih =>
    obtain ⟨htracks, hkept, htokens⟩ := h.attempt rpmLimit tpmLimit hclock totalTokens
    obtain ⟨hend, hwindows, hfits⟩ := ih htracks (hkept hrequests)
    refine ⟨hend, hwindows, ?_⟩
    rw [List.foldl_cons, hfits, htokens, and_assoc]
    exact Iff.rfl

end Attempts

theorem token_windows_hold_iff (rpmLimit tpmLimit : ℕ) (clock : ℕ → ℚ) (hclock : Monotone clock) (totals : List ℤ) :
    WindowsHold 60 tpmLimit (run rpmLimit tpmLimit clock totals).tokens ↔ Fits rpmLimit tpmLimit clock {} totals := by
  obtain ⟨-, -, hfits⟩ := (tracks_initial clock).attempts rpmLimit tpmLimit hclock totals
    WindowsHold.nil
  rw [run, hfits]
  exact and_iff_right WindowsHold.nil

lemma seconds_monotone : Monotone (fun n : ℕ => (n : ℚ)) := Nat.mono_cast

theorem one_token_each_holds : WindowsHold 60 2 (run 9 2 (fun n => n) [1, 1, 1]).tokens ↔
    Fits 9 2 (fun n => n) {} [1, 1, 1] :=
  token_windows_hold_iff 9 2 _ seconds_monotone [1, 1, 1]

theorem large_request_overruns : ¬ ∀ (rpmLimit tpmLimit : ℕ) (clock : ℕ → ℚ) (_ : Monotone clock) (totals : List ℤ),
    WindowsHold 60 tpmLimit (run rpmLimit tpmLimit clock totals).tokens := by
  intro h
  have hwindow := (h 1 1 (fun _ => 0) monotone_const [2]).from_start 0
  revert hwindow
  decide +kernel

theorem request_windows_hold (rpmLimit tpmLimit : ℕ) (clock : ℕ → ℚ) (hclock : Monotone clock) (totals : List ℤ) :
    WindowsHold 60 rpmLimit (run rpmLimit tpmLimit clock totals).requests ∧
      ∀ totalTokens,
        ((run rpmLimit tpmLimit clock totals).check rpmLimit tpmLimit clock totalTokens).1 = some .rateLimitedRpm →
        (run rpmLimit tpmLimit clock totals).requests.countP
          (fun e => clock (run rpmLimit tpmLimit clock totals).ticks - 60 < e ∧
            e ≤ clock (run rpmLimit tpmLimit clock totals).ticks) = rpmLimit := by
  obtain ⟨htracks, hwindows, -⟩ := (tracks_initial clock).attempts rpmLimit tpmLimit hclock totals
    WindowsHold.nil
  refine ⟨hwindows, fun totalTokens hlimited => ?_⟩
  exact htracks.window_full rpmLimit tpmLimit hwindows totalTokens hlimited

theorem two_requests_a_minute :
    WindowsHold 60 2 (run 2 9 (fun n => n) [1, 1, 1]).requests ∧
      ∀ totalTokens, ((run 2 9 (fun n => n) [1, 1, 1]).check 2 9 (fun n => n) totalTokens).1 = some .rateLimitedRpm →
        (run 2 9 (fun n => n) [1, 1, 1]).requests.countP
          (fun e => ((run 2 9 (fun n => n) [1, 1, 1]).ticks : ℚ) - 60 < e ∧
            e ≤ (run 2 9 (fun n => n) [1, 1, 1]).ticks) = 2 :=
  request_windows_hold 2 9 _ seconds_monotone [1, 1, 1]

end LimiterRun

end MiniVllm
