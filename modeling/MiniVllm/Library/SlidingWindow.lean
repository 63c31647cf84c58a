import Mathlib.Tactic

/-! Events counted in windows of a fixed width. -/

namespace MiniVllm

variable {α : Type} [AddCommGroup α] [LinearOrder α] [IsOrderedAddMonoid α]

def since (t : α) (events : List α) : ℕ := events.countP (fun e => t < e)

/-- Every half-open window, whichever end it leaves out, holds at most `limit` events. -/
structure WindowsHold (width : α) (limit : ℕ) (events : List α) : Prop where
  from_start : ∀ t, events.countP (fun e => t ≤ e ∧ e < t + width) ≤ limit
  to_end : ∀ t, events.countP (fun e => t < e ∧ e ≤ t + width) ≤ limit

section Since

variable {t t' now : α} (events : List α)

omit [AddCommGroup α] [IsOrderedAddMonoid α] in
lemma since_eq_length : since t events = (events.filter (fun e => e > t)).length := by
  rw [since, List.countP_eq_length_filter]

omit [AddCommGroup α] [IsOrderedAddMonoid α] in
lemma since_le (h : t ≤ t') : since t' events ≤ since t events := by
  apply List.countP_mono_left
  intro e _ he
  simp only [decide_eq_true_eq] at he ⊢
  exact h.trans_lt he

omit [AddCommGroup α] [IsOrderedAddMonoid α] in
lemma since_purge (h : t ≤ t') : since t' (events.filter (fun e => e > t)) = since t' events := by
  rw [since, List.countP_filter]
  apply List.countP_congr
  intro e _
  simp only [decide_eq_true_eq, Bool.and_eq_true]
  exact and_iff_left_of_imp h.trans_lt

variable {events} {width : α}

omit [IsOrderedAddMonoid α] in
lemma since_eq_window (h : ∀ e ∈ events, e ≤ now) :
    events.countP (fun e => now - width < e ∧ e ≤ now - width + width) = since (now - width) events := by
  apply List.countP_congr
  intro e he
  simp only [sub_add_cancel, decide_eq_true_eq]
  exact and_iff_left (h e he)

end Since

namespace WindowsHold

variable {width now : α} {limit : ℕ} {events : List α}

omit [IsOrderedAddMonoid α] in
lemma nil : WindowsHold width limit ([] : List α) := ⟨fun _ => Nat.zero_le _, fun _ => Nat.zero_le _⟩

omit [IsOrderedAddMonoid α] in
lemma since_le_limit (h : WindowsHold width limit events) (hnow : ∀ e ∈ events, e ≤ now) :
    since (now - width) events ≤ limit := by
  rw [← since_eq_window hnow]
  exact h.to_end (now - width)

theorem concat_iff (hw : 0 < width) (hnow : ∀ e ∈ events, e ≤ now) :
    WindowsHold width limit (events ++ [now]) ↔
      WindowsHold width limit events ∧ since (now - width) events < limit := by
  have hstart : now - width < now := sub_lt_self now hw
  constructor
  · intro h
    have hall : ∀ e ∈ events ++ [now], e ≤ now := by
      intro e he
      rcases List.mem_append.mp he with he | he
      · exact hnow e he
      · exact (List.mem_singleton.mp he).le
    refine ⟨⟨fun t => ?_, fun t => ?_⟩, ?_⟩
    · have ht := h.from_start t
      rw [List.countP_append] at ht
      omega
    · have ht := h.to_end t
      rw [List.countP_append] at ht
      omega
    · have hlast := h.since_le_limit hall
      rw [since, List.countP_append, List.countP_singleton, if_pos (by simpa using hstart)] at hlast
      exact hlast
  · rintro ⟨h, hroom⟩
    have hadd : ∀ p : α → Bool, events.countP p ≤ limit →
        (p now = true → ∀ e ∈ events, p e = true → now - width < e) →
          (events ++ [now]).countP p ≤ limit := by
      intro p hp hwindow
      rw [List.countP_append, List.countP_singleton]
      split_ifs with hlast
      · have hle : events.countP p ≤ since (now - width) events := by
          apply List.countP_mono_left
          intro e he hpe
          simpa using hwindow hlast e he hpe
        omega
      · omega
    refine ⟨fun t => ?_, fun t => ?_⟩
    · apply hadd _ (h.from_start t)
      simp only [decide_eq_true_eq]
      rintro ⟨-, hend⟩ e he ⟨hte, -⟩
      exact (sub_lt_iff_lt_add.mpr hend).trans_le hte
    · apply hadd _ (h.to_end t)
      simp only [decide_eq_true_eq]
      rintro ⟨-, hend⟩ e he ⟨hte, -⟩
      exact (sub_le_iff_le_add.mpr hend).trans_lt hte

end WindowsHold

end MiniVllm
