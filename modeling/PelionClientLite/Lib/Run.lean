import Mathlib.Data.List.Infix

/-!
# Runs of a machine that may stop

A machine is a step function `step : σ → ι → Except ε σ`: it handles one input,
and either goes on from a new state or stops for a reason.  A run handles a list
of inputs in turn.

What is said of a machine is said of every run of it, in one of two
shapes: of each state a run reaches, together with the inputs that led there
(`Always`), or of each input a run is about to handle (`EachStep`).  The rules
below are the inductions these take.

## Main definitions

* `bind_eq_ok` and its companions — what it takes for a computation in
  `Except` to come back.
* `Avoids` — a computation does not stop for certain reasons.
* `run` — handle the inputs in turn, stopping at the first that errs.
* `seen` — the inputs of a run as another machine sees them.
* `Always`, `EachStep` — the two shapes of property.

## Main results

* `run_induction`, `run_invariant` — what each step keeps holds after every run.
* `run_simulates` — simulation of one machine by another, up to stuttering.
* `run_map`, `run_seen` — refinement of one machine by another, step by step or for the
  steps it sees.
* `run_length_add_le`, `exists_run_of_progress` — runs whose steps lower a measure are
  short, and come to an end.
* `eachStep_iff` — **the exactness rule**: a property holds along a run if and
  only if a condition does, when the property holds as long as the condition
  has held, and fails at the first step where the condition fails.
* `always_iff` — the same rule for a property of the states reached.
-/

namespace Machine

/-! ### Computations that may stop -/

section Except

variable {ε α β : Type*}

@[simp] theorem ok_bind {α β : Type _} (a : α) (f : α → Except ε β) :
    (Except.ok a >>= f) = f a := rfl

@[simp] theorem error_bind {α β : Type _} (e : ε) (f : α → Except ε β) :
    (Except.error e >>= f) = .error e := rfl

@[simp] theorem pure_eq_ok (a : α) : (pure a : Except ε α) = .ok a := rfl

@[simp] theorem throw_eq_error (e : ε) : (throw e : Except ε α) = .error e := rfl

/-- A computation comes back only if each of its parts does. -/
theorem bind_eq_ok {α β : Type _} {x : Except ε α} {f : α → Except ε β} {b : β} :
    (x >>= f) = .ok b ↔ ∃ a, x = .ok a ∧ f a = .ok b := by
  cases x with
  | error e => simp
  | ok a => simp

/-- What comes back of a computation that ends in a return. -/
theorem bind_pure_eq_ok {α β : Type _} {x : Except ε α} {f : α → β} {b : β} :
    (x >>= fun a => pure (f a)) = .ok b ↔ ∃ a, x = .ok a ∧ f a = b := by
  rw [bind_eq_ok]
  refine exists_congr fun a => and_congr_right fun _ => ?_
  rw [pure_eq_ok, Except.ok.injEq]

/-- A computation stops where one of its parts does. -/
theorem bind_eq_error {α β : Type _} {x : Except ε α} {f : α → Except ε β} {e : ε} :
    (x >>= f) = .error e ↔ x = .error e ∨ ∃ a, x = .ok a ∧ f a = .error e := by
  cases x with
  | error e' => simp
  | ok a => simp

/-- A return is no place to stop. -/
theorem bind_pure_eq_error {α β : Type _} {x : Except ε α} {f : α → β} {e : ε} :
    (x >>= fun a => pure (f a)) = .error e ↔ x = .error e := by
  rw [bind_eq_error]
  simp

/-- The computation does not stop for a reason of a kind. -/
def Avoids (C : ε → Prop) (x : Except ε α) : Prop := ∀ e, x = .error e → ¬ C e

variable {C : ε → Prop}

theorem avoids_ok (a : α) : Avoids C (.ok a) := by
  intro e h
  simp at h

theorem avoids_error {e : ε} (h : ¬ C e) : Avoids C (.error e : Except ε α) := by
  intro e' he
  rw [Except.error.injEq] at he
  exact he ▸ h

/-- A computation avoids what all its parts avoid. -/
theorem Avoids.bind {α β : Type _} {x : Except ε α} {f : α → Except ε β} (hx : Avoids C x)
    (hf : ∀ a, x = .ok a → Avoids C (f a)) : Avoids C (x >>= f) := by
  cases x with
  | error e => exact avoids_error (hx e rfl)
  | ok a => exact hf a rfl

end Except

/-! ### Runs -/

variable {ε σ ι : Type*}

/-- Handle the inputs in turn, stopping at the first one that errs. -/
def run (step : σ → ι → Except ε σ) : σ → List ι → Except ε σ
  | s, [] => .ok s
  | s, i :: is =>
      match step s i with
      | .error e => .error e
      | .ok t => run step t is

variable {step : σ → ι → Except ε σ}

@[simp] theorem run_nil (s : σ) : run step s [] = .ok s := rfl

theorem run_cons (s : σ) (i : ι) (is : List ι) :
    run step s (i :: is) = (step s i).bind fun t => run step t is := by
  rw [run]
  cases step s i <;> rfl

theorem run_cons_ok {s t : σ} {i : ι} (h : step s i = .ok t) (is : List ι) :
    run step s (i :: is) = run step t is := by
  rw [run, h]

theorem run_append (s : σ) (is js : List ι) :
    run step s (is ++ js) = (run step s is).bind fun t => run step t js := by
  induction is generalizing s with
  | nil => rfl
  | cons i is ih =>
    rw [List.cons_append, run_cons, run_cons]
    cases step s i with
    | error e => rfl
    | ok t => exact ih t

/-- A run that ends in a state passed through a state at every prefix. -/
theorem run_append_eq_ok {s t : σ} {is js : List ι} :
    run step s (is ++ js) = .ok t ↔ ∃ u, run step s is = .ok u ∧ run step u js = .ok t := by
  rw [run_append]
  cases run step s is with
  | error e => simp [Except.bind]
  | ok u => simp [Except.bind]

theorem run_concat_eq_ok {s t : σ} {is : List ι} {i : ι} :
    run step s (is ++ [i]) = .ok t ↔ ∃ u, run step s is = .ok u ∧ step u i = .ok t := by
  rw [run_append_eq_ok]
  refine exists_congr fun u => and_congr_right fun _ => ?_
  rw [run_cons]
  cases step u i <;> simp [Except.bind]

/-! ### What every run keeps -/

/-- Induction over a run, newest input last, with the inputs handled so far at
hand. -/
theorem run_induction {s : σ} {P : List ι → σ → Prop} (hnil : P [] s)
    (hsnoc : ∀ is u i t, run step s is = .ok u → P is u → step u i = .ok t → P (is ++ [i]) t) :
    ∀ {is t}, run step s is = .ok t → P is t := by
  intro is
  induction is using List.reverseRecOn with
  | nil =>
    intro t h
    rw [run_nil, Except.ok.injEq] at h
    exact h ▸ hnil
  | append_singleton is i ih =>
    intro t h
    obtain ⟨u, hu, hstep⟩ := run_concat_eq_ok.mp h
    exact hsnoc is u i t hu (ih hu) hstep

/-- What each step keeps, every run keeps. -/
theorem run_invariant {I : σ → Prop} (hstep : ∀ s i t, step s i = .ok t → I s → I t)
    {s t : σ} {is : List ι} (h : run step s is = .ok t) (hs : I s) : I t :=
  run_induction (P := fun _ u => I u) hs (fun _ u i t _ hu ht => hstep u i t ht hu) h

/-- Simulation up to stuttering: where each step either keeps `f` or is, seen
through `f`, a step of a second machine, every run is a run of that machine. -/
theorem run_simulates {τ κ δ : Type*} {step' : τ → κ → Except δ τ} (f : σ → τ)
    (h : ∀ s i t, step s i = .ok t → f t = f s ∨ ∃ j, step' (f s) j = .ok (f t))
    {s t : σ} {is : List ι} (hrun : run step s is = .ok t) :
    ∃ js, run step' (f s) js = .ok (f t) := by
  refine run_induction (P := fun _ u => ∃ js, run step' (f s) js = .ok (f u)) ⟨[], rfl⟩ ?_ hrun
  rintro is u i t - ⟨js, hjs⟩ ht
  rcases h u i t ht with heq | ⟨j, hj⟩
  · exact ⟨js, heq ▸ hjs⟩
  · exact ⟨js ++ [j], run_concat_eq_ok.mpr ⟨f u, hjs, hj⟩⟩

/-- Refinement by a function: where each step, seen through `f`, is a step of a second
machine on the input seen through `g`, so is every run. -/
theorem run_map {τ κ δ : Type*} {step' : τ → κ → Except δ τ} {I : σ → Prop} (f : σ → τ)
    (g : ι → κ)
    (h : ∀ s i t, I s → step s i = .ok t → I t ∧ step' (f s) (g i) = .ok (f t))
    {s t : σ} {is : List ι} (hs : I s) (hrun : run step s is = .ok t) :
    I t ∧ run step' (f s) (is.map g) = .ok (f t) := by
  refine run_induction (P := fun is u => I u ∧ run step' (f s) (is.map g) = .ok (f u))
    ⟨hs, rfl⟩ ?_ hrun
  rintro is u i t - ⟨hu, hjs⟩ ht
  obtain ⟨hI, hstep⟩ := h u i t hu ht
  refine ⟨hI, ?_⟩
  rw [List.map_append, List.map_singleton]
  exact run_concat_eq_ok.mpr ⟨f u, hjs, hstep⟩

/-- The inputs of a run as another machine sees them, which does not see all of them. -/
def seen {κ : Type*} (step : σ → ι → Except ε σ) (g : σ → ι → Option κ) : σ → List ι → List κ
  | _, [] => []
  | s, i :: is =>
      match step s i with
      | .error _ => []
      | .ok t => (g s i).toList ++ seen step g t is

/-- What is seen of one step more. -/
theorem seen_concat {κ : Type*} {g : σ → ι → Option κ} {s t u : σ} {is : List ι} {i : ι}
    (hrun : run step s is = .ok t) (hstep : step t i = .ok u) :
    seen step g s (is ++ [i]) = seen step g s is ++ (g t i).toList := by
  induction is generalizing s with
  | nil =>
    rw [run_nil, Except.ok.injEq] at hrun
    subst hrun
    simp [seen, hstep]
  | cons j is ih =>
    cases hj : step s j with
    | error e => simp [run, hj] at hrun
    | ok v =>
      rw [run_cons_ok hj] at hrun
      simp only [List.cons_append, seen, hj]
      rw [ih hrun, List.append_assoc]

/-- Forward simulation: where each step either is seen by a second machine, which follows,
or is not seen and leaves the two machines related, every run is one of the second machine
on what it sees. -/
theorem run_seen {τ κ δ : Type*} {step' : τ → κ → Except δ τ} {g : σ → ι → Option κ}
    {R : σ → τ → Prop}
    (hnone : ∀ s i t p, R s p → step s i = .ok t → g s i = none → R t p)
    (hsome : ∀ s i t p j, R s p → step s i = .ok t → g s i = some j →
      ∃ q, step' p j = .ok q ∧ R t q)
    {s t : σ} {p : τ} {is : List ι} (hR : R s p) (hrun : run step s is = .ok t) :
    ∃ q, run step' p (seen step g s is) = .ok q ∧ R t q := by
  induction is generalizing s p with
  | nil =>
    rw [run_nil, Except.ok.injEq] at hrun
    exact ⟨p, rfl, hrun ▸ hR⟩
  | cons i is ih =>
    cases hi : step s i with
    | error e => simp [run, hi] at hrun
    | ok u =>
      rw [run_cons_ok hi] at hrun
      simp only [seen, hi]
      cases hg : g s i with
      | none => exact ih (hnone s i u p hR hi hg) hrun
      | some j =>
        obtain ⟨q, hq, hR'⟩ := hsome s i u p j hR hi hg
        obtain ⟨r, hr, hR''⟩ := ih hR' hrun
        exact ⟨r, (run_cons_ok hq _).trans hr, hR''⟩

/-! ### Runs that come to an end -/

/-- Where each step lowers a measure, a run is no longer than what it lowers it by. -/
theorem run_length_add_le {I : σ → Prop} {C : ι → Prop} {μ : σ → ℕ}
    (hstep : ∀ s i t, I s → C i → step s i = .ok t → I t ∧ μ t < μ s) {s t : σ} {is : List ι}
    (hs : I s) (his : ∀ i ∈ is, C i) (h : run step s is = .ok t) :
    is.length + μ t ≤ μ s := by
  induction is generalizing s with
  | nil =>
    rw [run_nil, Except.ok.injEq] at h
    rw [h, List.length_nil, Nat.zero_add]
  | cons i is ih =>
    rw [List.forall_mem_cons] at his
    cases hi : step s i with
    | error e =>
      rw [run, hi] at h
      simp at h
    | ok u =>
      rw [run_cons_ok hi] at h
      obtain ⟨hu, hlt⟩ := hstep s i u hs his.1 hi
      have hle := ih hu his.2 h
      rw [List.length_cons]
      omega

/-- Where each state is at the end or can take a step that lowers a measure, there is a run
to the end. -/
theorem exists_run_of_progress {I D : σ → Prop} {C : ι → Prop} {μ : σ → ℕ}
    (hstep : ∀ s, I s → D s ∨ ∃ i t, C i ∧ step s i = .ok t ∧ I t ∧ μ t < μ s) {s : σ}
    (hs : I s) : ∃ is t, (∀ i ∈ is, C i) ∧ run step s is = .ok t ∧ D t := by
  induction hn : μ s using Nat.strong_induction_on generalizing s with
  | _ n ih =>
    rcases hstep s hs with hD | ⟨i, t, hi, hok, ht, hlt⟩
    · exact ⟨[], s, by simp, rfl, hD⟩
    · obtain ⟨is, u, his, hrun, hD⟩ := ih (μ t) (hn ▸ hlt) ht rfl
      exact ⟨i :: is, u, List.forall_mem_cons.mpr ⟨hi, his⟩, by rw [run_cons_ok hok, hrun], hD⟩

/-! ### Properties of runs -/

/-- `P` holds of every state the run `is` passes through, the first and the last
among them, together with the inputs that led there. -/
def Always (step : σ → ι → Except ε σ) (s : σ) (is : List ι) (P : List ι → σ → Prop) : Prop :=
  ∀ pre t, pre <+: is → run step s pre = .ok t → P pre t

/-- `P` holds of every input the run `is` comes to, with the inputs before it and
the state it finds. -/
def EachStep (step : σ → ι → Except ε σ) (s : σ) (is : List ι)
    (P : List ι → σ → ι → Prop) : Prop :=
  ∀ pre i u, pre ++ [i] <+: is → run step s pre = .ok u → P pre u i

theorem EachStep.mono {s : σ} {is : List ι} {P Q : List ι → σ → ι → Prop}
    (h : ∀ pre u i, run step s pre = .ok u → P pre u i → Q pre u i)
    (hP : EachStep step s is P) : EachStep step s is Q :=
  fun pre i u hpre hu => h pre u i hu (hP pre i u hpre hu)

/-- Where a property and a condition agree step by step, they agree along runs. -/
theorem eachStep_congr {s : σ} {is : List ι} {P Q : List ι → σ → ι → Prop}
    (h : ∀ pre u i, run step s pre = .ok u → (P pre u i ↔ Q pre u i)) :
    EachStep step s is P ↔ EachStep step s is Q :=
  ⟨EachStep.mono fun pre u i hu => (h pre u i hu).mp,
    EachStep.mono fun pre u i hu => (h pre u i hu).mpr⟩

/-- Where two properties agree state by state, they agree along runs. -/
theorem always_congr {s : σ} {is : List ι} {P Q : List ι → σ → Prop}
    (h : ∀ pre t, pre <+: is → run step s pre = .ok t → (P pre t ↔ Q pre t)) :
    Always step s is P ↔ Always step s is Q :=
  ⟨fun hP pre t hpre ht => (h pre t hpre ht).mp (hP pre t hpre ht),
    fun hQ pre t hpre ht => (h pre t hpre ht).mpr (hQ pre t hpre ht)⟩

theorem eachStep_nil {s : σ} {P : List ι → σ → ι → Prop} : EachStep step s [] P := by
  intro pre i u hpre
  simp at hpre

/-- A property of each step of a run is one of the first step, and of each step after it. -/
theorem eachStep_cons {s : σ} {i : ι} {is : List ι} {P : List ι → σ → ι → Prop} :
    EachStep step s (i :: is) P ↔
      P [] s i ∧ ∀ t, step s i = .ok t → EachStep step t is fun pre => P (i :: pre) := by
  constructor
  · intro h
    refine ⟨h [] i s (by simp) rfl, fun t ht pre j u hpre hu => ?_⟩
    refine h (i :: pre) j u (List.cons_prefix_cons.mpr ⟨rfl, hpre⟩) ?_
    rw [run_cons_ok ht]
    exact hu
  · rintro ⟨hfirst, hrest⟩ pre j u hpre hu
    cases pre with
    | nil =>
      obtain ⟨rfl, -⟩ := List.cons_prefix_cons.mp hpre
      rw [run_nil, Except.ok.injEq] at hu
      exact hu ▸ hfirst
    | cons k pre =>
      obtain ⟨rfl, htail⟩ := List.cons_prefix_cons.mp hpre
      rw [run_cons] at hu
      obtain ⟨t, ht, hu⟩ := bind_eq_ok.mp hu
      exact hrest t ht pre j u htail hu

/-- A property of each step of a run is one of each step but the last, and of the
last. -/
theorem eachStep_concat {s u : σ} {is : List ι} {i : ι} {P : List ι → σ → ι → Prop}
    (hu : run step s is = .ok u) :
    EachStep step s (is ++ [i]) P ↔ EachStep step s is P ∧ P is u i := by
  constructor
  · intro h
    refine ⟨fun pre j v hpre hv => ?_, h is i u List.prefix_rfl hu⟩
    exact h pre j v (hpre.trans (List.prefix_append is [i])) hv
  · rintro ⟨h, hlast⟩ pre j v hpre hv
    rcases List.prefix_concat_iff.mp hpre with heq | hpre
    · obtain ⟨rfl, hj⟩ := List.append_inj' heq rfl
      rw [hu, Except.ok.injEq] at hv
      obtain rfl : j = i := by simpa using hj
      exact hv ▸ hlast
    · exact h pre j v hpre hv

/-- A property of the states reached is a property of the first state and of what
each step leads to. -/
theorem always_iff_eachStep {s : σ} {is : List ι} {P : List ι → σ → Prop} :
    Always step s is P ↔
      P [] s ∧ EachStep step s is fun pre u i => ∀ t, step u i = .ok t → P (pre ++ [i]) t := by
  constructor
  · intro h
    refine ⟨h [] s List.nil_prefix rfl, fun pre i u hpre hu t ht => ?_⟩
    exact h (pre ++ [i]) t hpre (run_concat_eq_ok.mpr ⟨u, hu, ht⟩)
  · rintro ⟨hnil, hstep⟩ pre t hpre ht
    cases pre using List.reverseRecOn with
    | nil =>
      rw [run_nil, Except.ok.injEq] at ht
      exact ht ▸ hnil
    | append_singleton pre i =>
      obtain ⟨u, hu, hui⟩ := run_concat_eq_ok.mp ht
      exact hstep pre i u hpre hu t hui

/-- Along a run whose steps all meet `C`, the invariant `J` that such steps keep
holds at every step. -/
theorem EachStep.keeps {s : σ} {is : List ι} {J : List ι → σ → Prop}
    {C : List ι → σ → ι → Prop} (hnil : J [] s)
    (hkeep : ∀ pre u i t, i ∈ is → J pre u → C pre u i → step u i = .ok t → J (pre ++ [i]) t)
    (hC : EachStep step s is C) : Always step s is J := by
  intro pre
  induction pre using List.reverseRecOn with
  | nil =>
    intro t _ h
    rw [run_nil, Except.ok.injEq] at h
    exact h ▸ hnil
  | append_singleton pre i ih =>
    intro t hpre h
    obtain ⟨u, hu, hui⟩ := run_concat_eq_ok.mp h
    have hpre' : pre <+: is := (List.prefix_append pre [i]).trans hpre
    have hmem : i ∈ is := hpre.subset (by simp)
    exact hkeep pre u i t hmem (ih u hpre' hu) (hC pre i u hpre hu) hui

/-- **The exactness rule.**  `J` is what is known as long as the condition `C` has
held at every step.  If then `P` holds at each step that meets `C`, and fails at
a step that does not, `P` holds along a run exactly when `C` does. -/
theorem eachStep_iff {s : σ} {is : List ι} (J : List ι → σ → Prop)
    {P C : List ι → σ → ι → Prop} (hnil : J [] s)
    (hkeep : ∀ pre u i t, i ∈ is → J pre u → C pre u i → step u i = .ok t → J (pre ++ [i]) t)
    (hhold : ∀ pre u i, i ∈ is → J pre u → C pre u i → P pre u i)
    (hbreak : ∀ pre u i, i ∈ is → J pre u → P pre u i → C pre u i) :
    EachStep step s is P ↔ EachStep step s is C := by
  constructor
  · intro hP pre i u hpre hu
    -- the steps before this one met the condition, so the invariant is there
    have hJ := EachStep.keeps hnil
      (fun pre u i t hi hJ hPi => hkeep pre u i t hi hJ (hbreak pre u i hi hJ hPi)) hP
    exact hbreak pre u i (hpre.subset (by simp))
      (hJ pre u ((List.prefix_append pre [i]).trans hpre) hu) (hP pre i u hpre hu)
  · intro hC pre i u hpre hu
    have hJ := hC.keeps hnil hkeep pre u ((List.prefix_append pre [i]).trans hpre) hu
    exact hhold pre u i (hpre.subset (by simp)) hJ (hC pre i u hpre hu)

/-- The exactness rule for a property of the states reached. -/
theorem always_iff {s : σ} {is : List ι} (J : List ι → σ → Prop)
    {P : List ι → σ → Prop} {C : List ι → σ → ι → Prop} (hnil : J [] s)
    (hkeep : ∀ pre u i t, i ∈ is → J pre u → C pre u i → step u i = .ok t → J (pre ++ [i]) t)
    (hhold : ∀ pre t, J pre t → P pre t)
    (hbreak : ∀ pre u i t, i ∈ is → J pre u → step u i = .ok t → P (pre ++ [i]) t → C pre u i)
    (hstop : ∀ pre u i, i ∈ is → J pre u → (∀ t, step u i ≠ .ok t) → C pre u i) :
    Always step s is P ↔ EachStep step s is C := by
  rw [always_iff_eachStep]
  refine (and_iff_right (hhold [] s hnil)).trans ?_
  refine eachStep_iff J hnil hkeep ?_ ?_
  · intro pre u i hi hJ hC t ht
    exact hhold _ t (hkeep pre u i t hi hJ hC ht)
  · intro pre u i hi hJ hP
    cases hstep : step u i with
    | error e => exact hstop pre u i hi hJ (by simp [hstep])
    | ok t => exact hbreak pre u i t hi hJ hstep (hP t hstep)

end Machine
