import Mathlib.Tactic

/-! Loops over a list whose body updates a state and may raise, leaving the state it had reached. -/

namespace MiniVllm

variable {σ α e : Type}

def forEach (f : σ → α → Except e Unit × σ) : σ → List α → Except e Unit × σ
  | s, [] => (.ok (), s)
  | s, x :: xs =>
    match f s x with
    | (.error err, s') => (.error err, s')
    | (.ok _, s') => forEach f s' xs

def ForEachAll (P : σ → α → Prop) (f : σ → α → Except e Unit × σ) : σ → List α → Prop
  | _, [] => True
  | s, x :: xs =>
    P s x ∧ match f s x with
      | (.error _, _) => True
      | (.ok _, s') => ForEachAll P f s' xs

instance ForEachAll.decidable (P : σ → α → Prop) (f : σ → α → Except e Unit × σ) [∀ s x, Decidable (P s x)] :
    (s : σ) → (xs : List α) → Decidable (ForEachAll P f s xs)
  | _, [] => isTrue trivial
  | s, x :: xs =>
    have : Decidable (match f s x with
        | (.error _, _) => True
        | (.ok _, s') => ForEachAll P f s' xs) :=
      match f s x with
      | (.error _, _) => isTrue trivial
      | (.ok _, s') => ForEachAll.decidable P f s' xs
    inferInstanceAs (Decidable (_ ∧ _))

@[simp] lemma forEach_nil (f : σ → α → Except e Unit × σ) (s : σ) :
    forEach f s [] = (.ok (), s) := rfl

lemma forEach_append (f : σ → α → Except e Unit × σ) (s : σ) (xs ys : List α) :
    forEach f s (xs ++ ys) =
      match forEach f s xs with
      | (.error err, s') => (.error err, s')
      | (.ok _, s') => forEach f s' ys := by
  induction xs generalizing s with
  | nil => rfl
  | cons x xs ih =>
    simp only [List.cons_append, forEach]
    cases h : f s x with
    | mk r s' =>
      cases r with
      | error err => rfl
      | ok u => exact ih s'

section Returns

variable {f : σ → α → Except e Unit × σ} {s s' : σ}

lemma forEach_cons_ok {x : α} {xs : List α} (h : forEach f s (x :: xs) = (.ok (), s')) :
    ∃ s₁, f s x = (.ok (), s₁) ∧ forEach f s₁ xs = (.ok (), s') := by
  rw [forEach] at h
  cases hf : f s x with
  | mk r s₁ =>
    rw [hf] at h
    cases r with
    | error err => cases h
    | ok u => exact ⟨s₁, rfl, h⟩

lemma forEach_append_ok {xs ys : List α} (h : forEach f s (xs ++ ys) = (.ok (), s')) :
    ∃ s₁, forEach f s xs = (.ok (), s₁) ∧ forEach f s₁ ys = (.ok (), s') := by
  rw [forEach_append] at h
  cases hf : forEach f s xs with
  | mk r s₁ =>
    rw [hf] at h
    cases r with
    | error err => cases h
    | ok u => exact ⟨s₁, rfl, h⟩

end Returns

variable {f : σ → α → Except e Unit × σ} {P Q : σ → α → Prop} {I : σ → List α → Prop} {J : σ → Prop}

/-- The invariant rule: `I` ties the state to the items still to come, `J` holds after a raise. -/
theorem forEach_rule
    (hok : ∀ s x xs s', I s (x :: xs) → P s x → f s x = (.ok (), s') → I s' xs)
    (herr : ∀ s x xs err s', I s (x :: xs) → P s x → f s x = (.error err, s') → J s')
    {s : σ} {xs : List α} (hi : I s xs) (hp : ForEachAll P f s xs) :
    (∀ s', forEach f s xs = (.ok (), s') → I s' []) ∧
      (∀ err s', forEach f s xs = (.error err, s') → J s') := by
  induction xs generalizing s with
  | nil =>
    refine ⟨fun s' h => ?_, fun err s' h => by simp at h⟩
    cases h
    exact hi
  | cons x xs ih =>
    obtain ⟨hx, hrest⟩ := hp
    cases h : f s x with
    | mk r s₁ =>
      cases r with
      | error err =>
        simp only [forEach, h]
        refine ⟨fun s' hs => by simp at hs, fun err' s' hs => ?_⟩
        cases hs
        exact herr s x xs err s₁ hi hx h
      | ok u =>
        simp only [h] at hrest
        simp only [forEach, h]
        exact ih (hok s x xs s₁ hi hx h) hrest

lemma forEach_raises {s s' : σ} {xs : List α} {err : e} (hp : ForEachAll P f s xs)
    (h : forEach f s xs = (.error err, s')) : ∃ s₁, ∃ x ∈ xs, P s₁ x ∧ f s₁ x = (.error err, s') := by
  induction xs generalizing s with
  | nil => simp at h
  | cons x xs ih =>
    obtain ⟨hx, hrest⟩ := hp
    cases hf : f s x with
    | mk r s₁ =>
      cases r with
      | error err' =>
        simp only [forEach, hf] at h
        cases h
        exact ⟨s, x, by simp, hx, hf⟩
      | ok u =>
        simp only [hf] at hrest
        simp only [forEach, hf] at h
        obtain ⟨s₂, y, hy, hP, hfy⟩ := ih hrest h
        exact ⟨s₂, y, List.mem_cons_of_mem x hy, hP, hfy⟩

theorem ForEachAll.mono
    (hok : ∀ s x xs s', I s (x :: xs) → P s x → f s x = (.ok (), s') → I s' xs)
    (himp : ∀ s x xs, I s (x :: xs) → P s x → Q s x)
    {s : σ} {xs : List α} (hi : I s xs) (hp : ForEachAll P f s xs) : ForEachAll Q f s xs := by
  induction xs generalizing s with
  | nil => trivial
  | cons x xs ih =>
    obtain ⟨hx, hrest⟩ := hp
    refine ⟨himp s x xs hi hx, ?_⟩
    cases h : f s x with
    | mk r s₁ =>
      cases r with
      | error err => trivial
      | ok u =>
        simp only [h] at hrest
        exact ih (hok s x xs s₁ hi hx h) hrest

theorem ForEachAll.of_mem {xs : List α} (h : ∀ s, ∀ x ∈ xs, P s x) (s : σ) : ForEachAll P f s xs := by
  induction xs generalizing s with
  | nil => trivial
  | cons x xs ih =>
    refine ⟨h s x (by simp), ?_⟩
    cases hf : f s x with
    | mk r s₁ =>
      cases r with
      | error err => trivial
      | ok u => exact ih (fun s y hy => h s y (List.mem_cons_of_mem x hy)) s₁

theorem ForEachAll.of_forall (h : ∀ s x, P s x) (s : σ) (xs : List α) : ForEachAll P f s xs :=
  .of_mem (fun s x _ => h s x) s

section Except

variable {β : Type}

lemma bind_ok {x : Except e α} {f : α → Except e β} {b : β} (h : (x >>= f) = .ok b) :
    ∃ a, x = .ok a ∧ f a = .ok b := by
  cases x with
  | error err => cases h
  | ok a => exact ⟨a, rfl, h⟩

lemma mapM_ok {f : α → Except e β} {xs : List α} {ys : List β} (h : xs.mapM f = .ok ys) {i : ℕ} {y : β}
    (hy : ys[i]? = some y) : ∃ x, xs[i]? = some x ∧ f x = .ok y := by
  induction xs generalizing ys i with
  | nil =>
    obtain rfl := Except.ok.inj h
    cases hy
  | cons x xs ih =>
    rw [List.mapM_cons] at h
    obtain ⟨z, hz, h⟩ := bind_ok h
    obtain ⟨zs, hzs, h⟩ := bind_ok h
    obtain rfl := Except.ok.inj h
    cases i with
    | zero =>
      obtain rfl := Option.some.inj hy
      exact ⟨x, rfl, hz⟩
    | succ i => exact ih hzs hy

end Except

end MiniVllm
