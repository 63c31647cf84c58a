import Mathlib.Tactic

/-! Jobs that stand in line for seats: first come, first served, many at a time. -/

namespace MiniVllm

/-- A waiting job asks for `more + 1` rounds of service, one in service for `left` further rounds. -/
inductive Stage
  | waiting (more : ℕ)
  | serving (left : ℕ)
  | done
  | withdrawn
  deriving DecidableEq, Repr

namespace Stage

def isWaiting : Stage → Bool
  | waiting _ => true
  | _ => false

def isServing : Stage → Bool
  | serving _ => true
  | _ => false

def live (x : Stage) : Bool := x.isWaiting || x.isServing

def load : Stage → ℕ
  | waiting more => more + 1
  | serving left => left
  | _ => 0

def retire : Stage → Stage
  | serving 0 => done
  | x => x

def serve : Stage → Stage
  | serving (left + 1) => serving left
  | x => x

def withdraw : Stage → Stage
  | done => done
  | _ => withdrawn

def seat : Stage → ℕ → Stage
  | waiting more, _ + 1 => serving (more + 1)
  | x, _ => x

def seatsLeft : Stage → ℕ → ℕ
  | waiting _, seats => seats - 1
  | _, seats => seats

end Stage

namespace SeatQueue

open Stage

def inService (jobs : List Stage) : ℕ := jobs.countP isServing

def seatNext : List Stage → ℕ → List Stage
  | [], _ => []
  | x :: jobs, seats => x.seat seats :: seatNext jobs (x.seatsLeft seats)

def tick (policy : ℕ → ℕ) (jobs : List Stage) : List Stage :=
  (seatNext (jobs.map retire) (policy (inService (jobs.map retire)))).map serve

inductive Event
  | arrive (more : ℕ)
  | leave (gone : ℕ → Bool)
  | tick

def step (policy : ℕ → ℕ) (jobs : List Stage) : Event → List Stage
  | .arrive more => jobs ++ [.waiting more]
  | .leave gone => jobs.mapIdx (fun i x => if gone i then x.withdraw else x)
  | .tick => tick policy jobs

def run (policy : ℕ → ℕ) (events : List Event) : List Stage := events.foldl (step policy) []

def continuous (seats n : ℕ) : ℕ := seats - n

def static (seats n : ℕ) : ℕ := if n = 0 then seats else 0

section Lengths

variable (policy : ℕ → ℕ) (jobs : List Stage)

@[simp] lemma seatNext_length (seats : ℕ) : (seatNext jobs seats).length = jobs.length := by
  induction jobs generalizing seats with
  | nil => rfl
  | cons x jobs ih => simp only [seatNext, List.length_cons, ih]

end Lengths

lemma getElem?_seatNext (jobs : List Stage) (seats i : ℕ) : (seatNext jobs seats)[i]? =
    jobs[i]?.map (fun x => x.seat (seats - (jobs.take i).countP isWaiting)) := by
  induction jobs generalizing seats i with
  | nil => rfl
  | cons x jobs ih =>
    cases i with
    | zero => rfl
    | succ i =>
      rw [seatNext, List.getElem?_cons_succ, List.getElem?_cons_succ, ih, List.take_succ_cons, List.countP_cons]
      have hseats : x.seatsLeft seats - (jobs.take i).countP isWaiting =
          seats - ((jobs.take i).countP isWaiting + if x.isWaiting then 1 else 0) := by
        cases x <;> simp only [seatsLeft, isWaiting, if_true, Bool.false_eq_true, if_false] <;> omega
      rw [hseats]

def seatsFor (policy : ℕ → ℕ) (jobs : List Stage) (i : ℕ) : ℕ :=
  policy (inService (jobs.map retire)) - (jobs.take i).countP isWaiting

lemma getElem?_tick (policy : ℕ → ℕ) (jobs : List Stage) (i : ℕ) : (tick policy jobs)[i]? =
    jobs[i]?.map (fun x => (x.retire.seat (seatsFor policy jobs i)).serve) := by
  have hwaiting : isWaiting ∘ retire = isWaiting := by
    funext x
    rcases x with _ | (_ | _) | _ | _ <;> rfl
  rw [tick, List.getElem?_map, getElem?_seatNext, List.getElem?_map, ← List.map_take, List.countP_map, hwaiting]
  cases jobs[i]? <;> rfl

def InOrder (jobs : List Stage) : Prop := jobs.Pairwise (fun x y => x.isWaiting = true → y.isServing = false)

lemma inOrder_cons {x : Stage} {jobs : List Stage} :
    InOrder (x :: jobs) ↔ (x.isWaiting = true → inService jobs = 0) ∧ InOrder jobs := by
  rw [InOrder, List.pairwise_cons, inService, List.countP_eq_zero]
  refine and_congr_left fun _ => ?_
  constructor
  · intro h hx y hy
    rw [h y hy hx]
    exact Bool.false_ne_true
  · intro h y hy hx
    exact (Bool.not_eq_true _).mp (h hx y hy)

lemma InOrder.map {jobs : List Stage} (h : InOrder jobs) (f : ℕ → Stage → Stage)
    (hwait : ∀ i x, (f i x).isWaiting = true → x.isWaiting = true)
    (hserve : ∀ i x, (f i x).isServing = true → x.isServing = true) : InOrder (jobs.mapIdx f) := by
  rw [InOrder, List.pairwise_iff_getElem] at h ⊢
  intro i j hi hj hij hx
  rw [List.getElem_mapIdx] at hx ⊢
  by_contra hy
  have hxj := h i j (by simpa using hi) (by simpa using hj) hij (hwait _ _ hx)
  rw [hserve _ _ ((Bool.not_eq_false _).mp hy)] at hxj
  cases hxj

lemma mapIdx_const (f : Stage → Stage) (jobs : List Stage) : jobs.mapIdx (fun _ x => f x) = jobs.map f := by
  apply List.ext_getElem <;> simp

lemma inService_seatNext_zero (jobs : List Stage) : seatNext jobs 0 = jobs := by
  induction jobs with
  | nil => rfl
  | cons x jobs ih => cases x <;> simp only [seatNext, seat, seatsLeft, Nat.zero_sub, ih]

lemma InOrder.seatNext {jobs : List Stage} (h : InOrder jobs) (seats : ℕ) : InOrder (seatNext jobs seats) := by
  induction jobs generalizing seats with
  | nil => exact h
  | cons x jobs ih =>
    obtain ⟨hx, hjobs⟩ := inOrder_cons.mp h
    refine inOrder_cons.mpr ⟨fun hs => ?_, ih hjobs _⟩
    cases x with
    | waiting more =>
      cases seats with
      | zero =>
        rw [seatsLeft, Nat.zero_sub, inService_seatNext_zero]
        exact hx rfl
      | succ seats => cases hs
    | serving left => cases hs
    | done => cases hs
    | withdrawn => cases hs

lemma InOrder.retire {jobs : List Stage} (h : InOrder jobs) : InOrder (jobs.map retire) := by
  rw [← mapIdx_const]
  apply h.map
  · rintro - (_ | (_ | _) | _ | _) hx <;> exact hx
  · rintro - (_ | (_ | _) | _ | _) hx <;> first | exact hx | cases hx

lemma InOrder.serve {jobs : List Stage} (h : InOrder jobs) : InOrder (jobs.map serve) := by
  rw [← mapIdx_const]
  apply h.map
  · rintro - (_ | (_ | _) | _ | _) hx <;> exact hx
  · rintro - (_ | (_ | _) | _ | _) hx <;> exact hx

lemma InOrder.tick {jobs : List Stage} (h : InOrder jobs) (policy : ℕ → ℕ) : InOrder (tick policy jobs) :=
  (h.retire.seatNext _).serve

lemma InOrder.step {jobs : List Stage} (h : InOrder jobs) (policy : ℕ → ℕ) (event : Event) :
    InOrder (step policy jobs event) := by
  cases event with
  | arrive more =>
    refine List.pairwise_append.mpr ⟨h, List.pairwise_singleton _ _, fun x _ y hy _ => ?_⟩
    rw [List.mem_singleton.mp hy]
    rfl
  | leave gone =>
    apply h.map
    · intro i x
      split_ifs
      · cases x <;> exact fun hx => Bool.noConfusion hx
      · exact id
    · intro i x
      split_ifs
      · cases x <;> exact fun hx => Bool.noConfusion hx
      · exact id
  | tick => exact h.tick policy

theorem inOrder_run (policy : ℕ → ℕ) (events : List Event) : InOrder (run policy events) := by
  induction events using List.reverseRecOn with
  | nil => exact List.Pairwise.nil
  | append_singleton events event ih =>
    rw [run, List.foldl_append]
    exact ih.step policy event

inductive Ahead : Stage → Stage → Prop
  | done (y : Stage) : Ahead .done y
  | withdrawn : Ahead .withdrawn .withdrawn
  | serving {j k : ℕ} (h : j ≤ k) : Ahead (.serving j) (.serving k)
  | seated {j more : ℕ} (h : j ≤ more + 1) : Ahead (.serving j) (.waiting more)
  | waiting (more : ℕ) : Ahead (.waiting more) (.waiting more)

lemma Ahead.retire {x y : Stage} (h : Ahead x y) : Ahead x.retire y.retire := by
  cases h with
  | done => exact .done _
  | withdrawn => exact .withdrawn
  | waiting => exact .waiting _
  | @serving j k h =>
    cases j with
    | zero => exact .done _
    | succ j =>
      cases k with
      | zero => omega
      | succ k => exact .serving h
  | @seated j more h =>
    cases j with
    | zero => exact .done _
    | succ j => exact .seated h

lemma Ahead.serve {x y : Stage} (h : Ahead x y) : Ahead x.serve y.serve := by
  cases h with
  | done => exact .done _
  | withdrawn => exact .withdrawn
  | waiting => exact .waiting _
  | @serving j k h =>
    cases j with
    | zero => cases k <;> exact .serving (Nat.zero_le _)
    | succ j =>
      cases k with
      | zero => omega
      | succ k => exact .serving (by omega)
  | @seated j more h => cases j <;> exact .seated (by omega)

lemma Ahead.withdraw {x y : Stage} (h : Ahead x y) : Ahead x.withdraw y.withdraw := by
  cases h <;> first | exact .done _ | exact .withdrawn

lemma Ahead.done_of {x : Stage} (h : Ahead x .done) : x = .done := by
  cases h
  rfl

lemma ahead_seatNext {a b : List Stage} (h : List.Forall₂ Ahead a b) (ha : InOrder a) {j k : ℕ}
    (hseats : k = 0 ∨ k + inService b ≤ j + inService a) : List.Forall₂ Ahead (seatNext a j) (seatNext b k) := by
  induction h generalizing j k with
  | nil => exact .nil
  | @cons x y a b hxy _ ih =>
    obtain ⟨hx, hrest⟩ := inOrder_cons.mp ha
    simp only [inService, List.countP_cons] at hseats hx
    cases hxy with
    | done y =>
      refine .cons ?_ (ih hrest ?_)
      · exact .done _
      · cases y <;> simp only [isServing, seatsLeft, inService, if_true, Bool.false_eq_true, if_false] at hseats ⊢ <;>
          omega
    | withdrawn => exact .cons .withdrawn (ih hrest hseats)
    | serving h =>
      refine .cons (.serving h) (ih hrest ?_)
      simp only [isServing, seatsLeft, inService, if_true] at hseats ⊢
      omega
    | seated h =>
      refine .cons ?_ (ih hrest ?_)
      · cases k with
        | zero => exact .seated h
        | succ k => exact .serving h
      · simp only [isServing, seatsLeft, inService, if_true, Bool.false_eq_true, if_false] at hseats ⊢
        omega
    | waiting more =>
      have hnone := hx rfl
      simp only [isServing, Bool.false_eq_true, if_false] at hseats
      refine .cons ?_ (ih hrest ?_)
      · cases k with
        | zero => cases j <;> first | exact .waiting _ | exact .seated (le_refl _)
        | succ k =>
          cases j with
          | zero => omega
          | succ j => exact .serving (le_refl _)
      · simp only [seatsLeft, inService]
        omega

lemma ahead_map {a b : List Stage} (h : List.Forall₂ Ahead a b) {f : Stage → Stage}
    (hf : ∀ x y, Ahead x y → Ahead (f x) (f y)) : List.Forall₂ Ahead (a.map f) (b.map f) := by
  rw [List.forall₂_map_left_iff, List.forall₂_map_right_iff]
  exact h.imp hf

section Policy

variable {seats : ℕ} {policy : ℕ → ℕ} (hpolicy : ∀ n, policy n ≤ seats - n)

include hpolicy

lemma ahead_tick {a b : List Stage} (h : List.Forall₂ Ahead a b) (ha : InOrder a) :
    List.Forall₂ Ahead (tick (continuous seats) a) (tick policy b) := by
  apply ahead_map _ fun _ _ => Ahead.serve
  apply ahead_seatNext _ ha.retire
  · have hq := hpolicy (inService (b.map retire))
    simp only [continuous]
    omega
  · exact ahead_map h fun _ _ => Ahead.retire

lemma ahead_step {a b : List Stage} (h : List.Forall₂ Ahead a b) (ha : InOrder a) (event : Event) :
    List.Forall₂ Ahead (step (continuous seats) a event) (step policy b event) := by
  cases event with
  | arrive more => exact List.rel_append h (.cons (.waiting more) .nil)
  | leave gone =>
    rw [List.forall₂_iff_get] at h ⊢
    obtain ⟨hlen, hget⟩ := h
    refine ⟨by simpa [step] using hlen, fun i hi hi' => ?_⟩
    have hi₀ : i < a.length := by simpa [step] using hi
    have hget := hget i hi₀ (hlen ▸ hi₀)
    simp only [step, List.get_eq_getElem, List.getElem_mapIdx] at hget ⊢
    split_ifs
    · exact hget.withdraw
    · exact hget
  | tick => exact ahead_tick hpolicy h ha

/-- Job by job, the policy that fills every free seat is at least as far, at every moment. -/
theorem ahead_run (events : List Event) : List.Forall₂ Ahead (run (continuous seats) events) (run policy events) := by
  induction events using List.reverseRecOn with
  | nil => exact .nil
  | append_singleton events event ih =>
    rw [run, run, List.foldl_append, List.foldl_append]
    exact ahead_step hpolicy ih (inOrder_run _ _) event

end Policy

def charge (weight : ℕ) (jobs : List Stage) (i : ℕ) : ℕ :=
  weight * (jobs[i]?.elim 0 load) + ((jobs.take i).map load).sum

lemma charge_cons_succ (weight : ℕ) (x : Stage) (jobs : List Stage) (i : ℕ) :
    charge weight (x :: jobs) (i + 1) = x.load + charge weight jobs i := by
  simp only [charge, List.getElem?_cons_succ, List.take_succ_cons, List.map_cons, List.sum_cons]
  omega

lemma charge_le {weight : ℕ} {a b : List Stage} {i : ℕ} (hlen : i < a.length)
    (h : ∀ j ≤ i, (b[j]?.elim 0 load) ≤ (a[j]?.elim 0 load)) : charge weight b i ≤ charge weight a i := by
  induction i generalizing a b with
  | zero =>
    have h₀ := Nat.mul_le_mul_left weight (h 0 (le_refl _))
    simpa only [charge, List.take_zero, List.map_nil, List.sum_nil, Nat.add_zero] using h₀
  | succ i ih =>
    cases a with
    | nil => cases hlen
    | cons x a =>
      have htail : ∀ y b', b = y :: b' → charge weight b (i + 1) ≤ charge weight (x :: a) (i + 1) := by
        rintro y b' rfl
        have h₀ : y.load ≤ x.load := h 0 (Nat.zero_le _)
        have hrest := ih (a := a) (b := b') (by simpa using hlen) fun j hj => h (j + 1) (by omega)
        rw [charge_cons_succ, charge_cons_succ]
        omega
      cases b with
      | nil => simp [charge]
      | cons y b' => exact htail y b' rfl

def Busy (jobs : List Stage) : Prop := ∀ x ∈ jobs, x ≠ .serving 0

lemma busy_retire (jobs : List Stage) : Busy (jobs.map retire) := by
  intro x hx
  obtain ⟨y, -, rfl⟩ := List.mem_map.mp hx
  rcases y with _ | _ | _ | _ <;> first | exact Stage.noConfusion | skip
  rename_i left
  cases left <;> simp [retire]

lemma charge_round (weight : ℕ) {jobs : List Stage} (hbusy : Busy jobs) (horder : InOrder jobs) (seats : ℕ) {i : ℕ}
    {x : Stage} (hx : jobs[i]? = some x) (hlive : x.live = true) :
    charge weight ((seatNext jobs seats).map serve) i + min weight (seats + inService jobs) ≤ charge weight jobs i := by
  induction jobs generalizing seats i with
  | nil => cases hx
  | cons y jobs ih =>
    have hrest : Busy jobs := fun z hz => hbusy z (List.mem_cons_of_mem y hz)
    obtain ⟨hy, hjobs⟩ := inOrder_cons.mp horder
    cases i with
    | zero =>
      obtain rfl : y = x := by simpa using hx
      simp only [charge, seatNext, List.map_cons, List.getElem?_cons_zero, Option.elim_some, List.take_zero, List.map_nil,
        List.sum_nil, Nat.add_zero]
      cases y with
      | waiting more =>
        have hnone := hy rfl
        have hserve : inService (waiting more :: jobs) = inService jobs := rfl
        rw [hserve, hnone]
        cases seats with
        | zero => simp [seat, serve]
        | succ seats =>
          simp only [seat, serve, load, Nat.mul_succ]
          omega
      | serving left =>
        cases left with
        | zero => exact absurd rfl (hbusy _ List.mem_cons_self)
        | succ left =>
          simp only [seat, serve, load, Nat.mul_succ]
          omega
      | done => cases hlive
      | withdrawn => cases hlive
    | succ i =>
      rw [List.getElem?_cons_succ] at hx
      rw [seatNext, List.map_cons, charge_cons_succ, charge_cons_succ]
      have hround := ih hrest hjobs (y.seatsLeft seats) hx
      cases y with
      | waiting more =>
        have hnone := hy rfl
        have hserve : inService (waiting more :: jobs) = inService jobs := rfl
        cases seats with
        | zero =>
          simp only [seat, serve, seatsLeft] at hround ⊢
          omega
        | succ seats =>
          simp only [seat, serve, seatsLeft, load] at hround ⊢
          omega
      | serving left =>
        have hserve : inService (serving left :: jobs) = inService jobs + 1 := List.countP_cons_of_pos rfl
        cases left with
        | zero => exact absurd rfl (hbusy _ List.mem_cons_self)
        | succ left =>
          simp only [seat, serve, seatsLeft, load] at hround ⊢
          omega
      | done =>
        have hserve : inService (done :: jobs) = inService jobs := rfl
        simp only [seat, serve, seatsLeft, load] at hround ⊢
        omega
      | withdrawn =>
        have hserve : inService (withdrawn :: jobs) = inService jobs := rfl
        simp only [seat, serve, seatsLeft, load] at hround ⊢
        omega

def Gone (jobs : List Stage) (i : ℕ) : Prop := ∃ x, jobs[i]? = some x ∧ x.live = false

def Within (seats : ℕ) (jobs : List Stage) (i rounds : ℕ) : Prop :=
  ∃ x, jobs[i]? = some x ∧ (x.live = false ∨ x = .serving 0 ∧ 0 < rounds ∨ charge seats jobs i < seats * rounds)

lemma Within.gone {seats : ℕ} {jobs : List Stage} {i : ℕ} (h : Within seats jobs i 0) : Gone jobs i := by
  obtain ⟨x, hx, hlive | ⟨-, hpos⟩ | hlt⟩ := h
  · exact ⟨x, hx, hlive⟩
  · omega
  · omega

lemma Within.of_le {seats : ℕ} {a b : List Stage} {i rounds : ℕ} (h : Within seats a i rounds) {f : Stage → Stage}
    (hi : b[i]? = a[i]?.map f) (hf : ∀ x, (f x).live = false ∨ f x = x)
    (hload : ∀ j ≤ i, (b[j]?.elim 0 load) ≤ (a[j]?.elim 0 load)) : Within seats b i rounds := by
  obtain ⟨x, hx, hcase⟩ := h
  have hlen := (List.getElem?_eq_some_iff.mp hx).1
  refine ⟨f x, by rw [hi, hx]; rfl, ?_⟩
  rcases hf x with hdead | hsame
  · exact Or.inl hdead
  · rw [hsame]
    exact hcase.imp_right (Or.imp_right (charge_le hlen hload).trans_lt)

lemma charge_retire (weight : ℕ) (jobs : List Stage) (i : ℕ) :
    charge weight (jobs.map retire) i = charge weight jobs i := by
  have hload : load ∘ retire = load := by
    funext x
    rcases x with _ | (_ | _) | _ | _ <;> rfl
  rw [charge, charge, ← List.map_take, List.map_map, hload, List.getElem?_map]
  cases jobs[i]? with
  | none => rfl
  | some x => exact congrArg (fun n => weight * n + _) (congrFun hload x)

lemma within_tick {seats : ℕ} {jobs : List Stage} {i rounds : ℕ} (horder : InOrder jobs)
    (h : Within seats jobs i rounds) : Within seats (tick (continuous seats) jobs) i (rounds - 1) := by
  obtain ⟨x, hx, hcase⟩ := h
  have hretire : (jobs.map retire)[i]? = some x.retire := by rw [List.getElem?_map, hx]; rfl
  have hafter : (tick (continuous seats) jobs)[i]? =
      some (x.retire.seat (seatsFor (continuous seats) jobs i)).serve := by
    rw [getElem?_tick, hx]
    rfl
  refine ⟨_, hafter, ?_⟩
  by_cases hbusy : x.retire.live = true
  · right
    right
    have hround := charge_round seats (busy_retire jobs) horder.retire (continuous seats (inService (jobs.map retire)))
      hretire hbusy
    rw [charge_retire] at hround
    have hall : min seats (continuous seats (inService (jobs.map retire)) + inService (jobs.map retire)) = seats := by
      simp only [continuous]
      omega
    rw [hall] at hround
    have hlt : charge seats jobs i < seats * rounds := by
      rcases hcase with hdead | ⟨rfl, -⟩ | hlt
      · cases x with
        | waiting more => cases hdead
        | serving left => cases hdead
        | done => cases hbusy
        | withdrawn => cases hbusy
      · cases hbusy
      · exact hlt
    cases rounds with
    | zero => omega
    | succ rounds =>
      rw [Nat.mul_succ] at hlt
      simp only [tick, Nat.add_sub_cancel]
      omega
  · left
    revert hbusy
    generalize x.retire = y
    cases y <;> intro hbusy <;> first | rfl | exact absurd rfl hbusy

def Event.isTick : Event → Bool
  | .tick => true
  | _ => false

def rounds (events : List Event) : ℕ := events.countP Event.isTick

lemma within_step {seats : ℕ} {jobs : List Stage} {i n : ℕ} (horder : InOrder jobs) (h : Within seats jobs i n)
    (event : Event) : Within seats (step (continuous seats) jobs event) i (n - if event.isTick then 1 else 0) := by
  have hlen : i < jobs.length := by
    obtain ⟨x, hx, -⟩ := h
    exact (List.getElem?_eq_some_iff.mp hx).1
  cases event with
  | arrive more =>
    have hsame : ∀ j ≤ i, (jobs ++ [Stage.waiting more])[j]? = jobs[j]? :=
      fun j hj => List.getElem?_append_left (by omega)
    apply h.of_le (f := id)
    · rw [Option.map_id, step, hsame i (le_refl _)]
      rfl
    · exact fun _ => Or.inr rfl
    · intro j hj
      rw [step, hsame j hj]
  | leave gone =>
    apply h.of_le (f := fun x => if gone i then x.withdraw else x)
    · rw [step, List.getElem?_mapIdx]
    · intro x
      split_ifs
      · exact Or.inl (by cases x <;> rfl)
      · exact Or.inr rfl
    · intro j hj
      rw [step, List.getElem?_mapIdx]
      cases jobs[j]? with
      | none => exact le_refl _
      | some x =>
        simp only [Option.map_some, Option.elim_some]
        split_ifs
        · cases x <;> exact Nat.zero_le _
        · exact le_refl _
  | tick => exact within_tick horder h

lemma within_steps {seats : ℕ} {jobs : List Stage} {i n : ℕ} (horder : InOrder jobs) (h : Within seats jobs i n)
    (events : List Event) :
    Within seats (events.foldl (step (continuous seats)) jobs) i (n - rounds events) := by
  induction events generalizing jobs n with
  | nil => exact h
  | cons event events ih =>
    have hnext := ih (horder.step _ event) (within_step horder h event)
    have hrounds : rounds (event :: events) = rounds events + if event.isTick then 1 else 0 := List.countP_cons
    rw [List.foldl_cons, hrounds, Nat.add_comm, ← Nat.sub_sub]
    exact hnext

lemma charge_div {seats : ℕ} (hseats : 0 < seats) (jobs : List Stage) (i : ℕ) :
    charge seats jobs i / seats = jobs[i]?.elim 0 load + ((jobs.take i).map load).sum / seats := by
  rw [charge, Nat.mul_add_div hseats]

/-- A job is gone after its own rounds, its share of the rounds of the jobs before it, and one more. -/
theorem gone_of_rounds {seats : ℕ} (hseats : 0 < seats) {jobs : List Stage} (horder : InOrder jobs) {i : ℕ}
    (hi : i < jobs.length) (events : List Event)
    (hrounds : jobs[i]?.elim 0 load + ((jobs.take i).map load).sum / seats < rounds events) :
    Gone (events.foldl (step (continuous seats)) jobs) i := by
  have hwithin : Within seats jobs i (rounds events) := by
    refine ⟨jobs[i], List.getElem?_eq_getElem hi, Or.inr (Or.inr ?_)⟩
    rw [← charge_div hseats, Nat.div_lt_iff_lt_mul hseats, Nat.mul_comm] at hrounds
    exact hrounds
  have hend := within_steps horder hwithin events
  rw [Nat.sub_self] at hend
  exact hend.gone

def Stays (i : ℕ) (events : List Event) : Prop := ∀ gone, Event.leave gone ∈ events → gone i = false

lemma stays_cons {i : ℕ} {event : Event} {events : List Event} (h : Stays i (event :: events)) :
    (∀ gone, event = .leave gone → gone i = false) ∧ Stays i events :=
  ⟨fun gone he => h gone (he ▸ List.mem_cons_self), fun gone hm => h gone (List.mem_cons_of_mem event hm)⟩

lemma not_withdrawn_step (policy : ℕ → ℕ) {jobs : List Stage} {event : Event} {i : ℕ} {x : Stage}
    (hx : jobs[i]? = some x) (hne : x ≠ .withdrawn) (hstay : ∀ gone, event = .leave gone → gone i = false) :
    ∃ y, (step policy jobs event)[i]? = some y ∧ y ≠ .withdrawn := by
  cases event with
  | arrive more =>
    refine ⟨x, ?_, hne⟩
    rw [step, List.getElem?_append_left (List.getElem?_eq_some_iff.mp hx).1, hx]
  | leave gone =>
    refine ⟨x, ?_, hne⟩
    rw [step, List.getElem?_mapIdx, hx, Option.map_some, hstay gone rfl]
    rfl
  | tick =>
    refine ⟨(x.retire.seat (seatsFor policy jobs i)).serve, by rw [step, getElem?_tick, hx]; rfl, ?_⟩
    generalize seatsFor policy jobs i = seats
    cases x with
    | waiting more => cases seats <;> exact Stage.noConfusion
    | serving left => rcases left with _ | _ <;> exact Stage.noConfusion
    | done => exact Stage.noConfusion
    | withdrawn => exact absurd rfl hne

theorem done_of_gone (policy : ℕ → ℕ) {jobs : List Stage} {events : List Event} {i : ℕ} {x : Stage}
    (hx : jobs[i]? = some x) (hne : x ≠ .withdrawn) (hstays : Stays i events)
    (hgone : Gone (events.foldl (step policy) jobs) i) : (events.foldl (step policy) jobs)[i]? = some .done := by
  induction events generalizing jobs x with
  | nil =>
    obtain ⟨y, hy, hdead⟩ := hgone
    cases y with
    | waiting more => cases hdead
    | serving left => cases hdead
    | done => exact hy
    | withdrawn => exact absurd (Option.some.inj (hx.symm.trans hy)) hne
  | cons event events ih =>
    obtain ⟨hevent, hrest⟩ := stays_cons hstays
    obtain ⟨y, hy, hney⟩ := not_withdrawn_step policy hx hne hevent
    exact ih hy hney hrest hgone

end SeatQueue

end MiniVllm
