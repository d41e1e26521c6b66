import PelionClientLite.Handlers

/-!
# Creating the resources

`init_pdmc_client` starts the client before it creates the resources.  From then on
client events may come between any two of its calls, and whatever becomes of them:
SETUP_COMPLETED registers the client, with the resources there are.

## Main definitions

* `CreationPoint`, `Creation.step` — `init_pdmc_client`, call by call, and the client
  events in between.
* `Creation.RegistersComplete` — what is required of a run.
* `Creation.SetUpLate` — what it takes.

## Main results

* `Creation.run_initPdmcClient` — without events this is `App.initPdmcClient`.
* `Creation.run_successes` — how far the resources have come is how many of the calls
  have succeeded.
* `registersComplete_iff` — **the client registers with all its resources exactly when
  SETUP_COMPLETED comes after the last of them.**
-/

namespace PelionClientLite

open Machine

/-! ### The calls, one by one -/

/-- Where `init_pdmc_client` is. -/
inductive CreationPoint where
  /-- `pdmc_connect_init` has not been called yet. -/
  | starting
  /-- In `pdmc_connect_add_cloud_resource`, for 3200/0/5501. -/
  | addButton
  /-- In `registry_set_value_int`. -/
  | setCounter
  /-- In `pdmc_connect_add_cloud_resource`, for 3201/0/5853. -/
  | addPattern
  /-- In `registry_set_value_string`. -/
  | setPattern
  /-- In `pdmc_connect_add_cloud_resource`, for 3201/0/5850. -/
  | addBlink
  /-- In `pdmc_connect_add_cloud_resource`, for 5000/0/1. -/
  | addUnregister
  /-- `init_example_resources` has returned. -/
  | created (complete : Bool)
  /-- `init_pdmc_client` has returned. -/
  | returned (complete : Bool)
  deriving DecidableEq, Repr

/-- `init_example_resources` has returned `true`. -/
def CreationPoint.isComplete : CreationPoint → Bool
  | created complete => complete
  | returned complete => complete
  | _ => false

/-- `init_example_resources` has returned `false`. -/
def CreationPoint.isFailed : CreationPoint → Bool
  | created complete => !complete
  | returned complete => !complete
  | _ => false

/-- So many calls have succeeded where `init_pdmc_client` is. -/
def CreationPoint.Counts : CreationPoint → ℕ → Prop
  | .starting, n => n = 0
  | .addButton, n => n = 0
  | .setCounter, n => n = 1
  | .addPattern, n => n = 2
  | .setPattern, n => n = 3
  | .addBlink, n => n = 4
  | .addUnregister, n => n = 5
  | .created complete, n => if complete then n = 6 else n < 6
  | .returned complete, n => if complete then n = 6 else n < 6

theorem CreationPoint.Counts.isComplete_iff {p : CreationPoint} {n : ℕ} (h : p.Counts n) :
    p.isComplete = true ↔ n = 6 := by
  cases p with
  | created complete => cases complete <;> simp [Counts, isComplete] at h ⊢ <;> omega
  | returned complete => cases complete <;> simp [Counts, isComplete] at h ⊢ <;> omega
  | _ => simp [Counts, isComplete] at h ⊢; omega

theorem CreationPoint.isComplete_of_isFailed {p : CreationPoint} (h : p.isFailed = true) :
    p.isComplete = false := by
  cases p with
  | created complete => simpa [isFailed, isComplete] using h
  | returned complete => simpa [isFailed, isComplete] using h
  | _ => rfl

/-- The variables, and where `init_pdmc_client` is. -/
structure Creation where
  app : App
  point : CreationPoint := .starting

/-- What may happen. -/
inductive CreationInput where
  /-- `pdmc_connect_init` is called. -/
  | connectInit
  /-- The call in progress succeeds, or fails. -/
  | answer (ok : Bool)
  /-- `init_pdmc_client` goes on to its end. -/
  | proceed
  /-- `pdmc_event_handler` is called. -/
  | clientEvent (env : Env) (event : ClientEvent)

namespace CreationInput

/-- A call for the resources succeeds. -/
def isSuccess : CreationInput → Bool
  | answer ok => ok
  | _ => false

/-- SETUP_COMPLETED is handled. -/
def isSetupCompleted : CreationInput → Bool
  | clientEvent _ event => event.isSetupCompleted
  | _ => false

end CreationInput

namespace Creation

/-- `init_example_resources`, from the return of one call to the next. -/
def createNext (ok : Bool) (s : Creation) : Except Stop Creation :=
  let a := s.app
  match s.point, ok with
  | .addButton, true => .ok ⟨{ a with client := { a.client with counter := 0 } }, .setCounter⟩
  | .setCounter, true =>
      .ok ⟨{ a with registry := { a.registry with counter := some a.client.counter } }, .addPattern⟩
  | .addPattern, true => .ok ⟨a, .setPattern⟩
  | .setPattern, true =>
      .ok ⟨{ a with registry := { a.registry with pattern := some App.defaultPattern } },
        .addBlink⟩
  | .addBlink, true =>
      .ok ⟨{ a with registry := { a.registry with blink := true } }, .addUnregister⟩
  | .addUnregister, true =>
      .ok ⟨{ a with registry := { a.registry with unregister := true } }, .created true⟩
  | .starting, _ => .error .refused
  | .created _, _ => .error .refused
  | .returned _, _ => .error .refused
  | _, false => .ok ⟨a, .created false⟩

/-- One step: of `init_pdmc_client`, or of the handler of client events, which is called
from the time of `pdmc_connect_init` on. -/
def step (s : Creation) : CreationInput → Except Stop Creation
  | .connectInit =>
      match s.point with
      | .starting =>
          .ok ⟨{ s.app with client := { s.app.client with initialised := true } }, .addButton⟩
      | _ => .error .refused
  | .answer ok => s.createNext ok
  | .proceed =>
      match s.point with
      | .created true =>
          .ok ⟨{ s.app with client := { s.app.client with registerCalled := true } },
            .returned true⟩
      | .created false => .ok ⟨s.app, .returned false⟩
      | _ => .error .refused
  | .clientEvent env event =>
      if s.point = .starting then .error .refused
      else do
        let app ← s.app.pdmcEventHandler env event
        return { s with app }

end Creation

/-- What the calls for the resources answer, up to the first that fails. -/
def App.ResourceEnv.answers (env : App.ResourceEnv) : List Bool :=
  if !env.addButton then [false] else
  if !env.setCounter then [true, false] else
  if !env.addPattern then [true, true, false] else
  if !env.setPattern then [true, true, true, false] else
  if !env.addBlink then [true, true, true, true, false] else
  [true, true, true, true, true, env.addUnregister]

namespace Creation

variable {s t : Creation} {i : CreationInput}

/-- **Without events this is `init_pdmc_client`.** -/
theorem run_initPdmcClient (env : App.ResourceEnv) (a : App) :
    run step { app := a } (.connectInit :: env.answers.map .answer ++ [.proceed]) =
      .ok ⟨a.initPdmcClient env, .returned env.ok⟩ := by
  obtain ⟨addButton, setCounter, addPattern, setPattern, addBlink, addUnregister⟩ := env
  cases addButton
  · rfl
  cases setCounter
  · rfl
  cases addPattern
  · rfl
  cases setPattern
  · rfl
  cases addBlink
  · rfl
  cases addUnregister <;> rfl

/-! ### What a step can be -/

/-- What a step can be. -/
inductive Steps (s : Creation) : CreationInput → Creation → Prop where
  | connectInit (hpoint : s.point = .starting) :
      Steps s .connectInit
        ⟨{ s.app with client := { s.app.client with initialised := true } }, .addButton⟩
  | answer {ok : Bool} {t : Creation} (hnext : s.createNext ok = .ok t) : Steps s (.answer ok) t
  | proceed {complete : Bool} {a : App} (hpoint : s.point = .created complete)
      (hlog : a.log = s.app.log) : Steps s .proceed ⟨a, .returned complete⟩
  | clientEvent {env : Env} {event : ClientEvent} {a : App} (hpoint : s.point ≠ .starting)
      (hevent : s.app.pdmcEventHandler env event = .ok a) :
      Steps s (.clientEvent env event) { s with app := a }

theorem steps_of_step (h : s.step i = .ok t) : s.Steps i t := by
  cases i with
  | connectInit =>
    simp only [step] at h
    split at h
    · next hpoint =>
      rw [Except.ok.injEq] at h
      exact h ▸ .connectInit hpoint
    · simp at h
  | answer ok => exact .answer h
  | proceed =>
    simp only [step] at h
    split at h
    · next hpoint =>
      rw [Except.ok.injEq] at h
      exact h ▸ .proceed hpoint rfl
    · next hpoint =>
      rw [Except.ok.injEq] at h
      exact h ▸ .proceed hpoint rfl
    · simp at h
  | clientEvent env event =>
    simp only [step] at h
    split at h
    · simp at h
    · next hpoint =>
      obtain ⟨a, ha, rfl⟩ := bind_pure_eq_ok.mp h
      exact .clientEvent hpoint ha

/-! ### How far the resources have come -/

theorem createNext_log {ok : Bool} (h : s.createNext ok = .ok t) : t.app.log = s.app.log := by
  obtain ⟨a, p⟩ := s
  cases p <;> cases ok <;>
    simp only [createNext, Except.ok.injEq, reduceCtorEq] at h <;> subst h <;> rfl

/-- A call that succeeds counts, and the first that fails is the last. -/
theorem createNext_counts {ok : Bool} {n : ℕ} (h : s.createNext ok = .ok t)
    (hn : s.point.Counts n) : t.point.Counts (if ok then n + 1 else n) := by
  obtain ⟨a, p⟩ := s
  cases p <;> cases ok <;>
    simp only [createNext, Except.ok.injEq, reduceCtorEq] at h <;> subst h <;>
    simp only [CreationPoint.Counts] at hn ⊢ <;> simp [hn]

theorem Steps.counts {n : ℕ} (h : s.Steps i t) (hn : s.point.Counts n) :
    t.point.Counts (if i.isSuccess then n + 1 else n) := by
  cases h with
  | connectInit hpoint =>
    rw [hpoint] at hn
    exact hn
  | answer hnext => exact createNext_counts hnext hn
  | proceed hpoint =>
    rw [hpoint] at hn
    exact hn
  | clientEvent => exact hn

/-- **How far the resources have come is how many of the calls have succeeded.** -/
theorem run_successes {a : App} {is : List CreationInput}
    (h : run step { app := a } is = .ok s) : s.point.Counts (is.countP (·.isSuccess)) := by
  refine run_induction (P := fun is s => s.point.Counts (is.countP (·.isSuccess))) rfl ?_ h
  intro is u i t _ hu ht
  have hcounts := (steps_of_step ht).counts hu
  rw [List.countP_append, List.countP_singleton]
  split at hcounts
  · next hi => rwa [if_pos hi]
  · next hi => rwa [if_neg hi, Nat.add_zero]

end Creation

/-! ### Registering -/

/-- `pdmc_connect_register` is called. -/
def Call.isConnectRegister : Call → Bool
  | connectRegister _ => true
  | _ => false

/-- How often `pdmc_connect_register` has been called. -/
def App.registrations (a : App) : ℕ := a.log.countP (·.isConnectRegister)

/-- The client is registered by SETUP_COMPLETED, and by nothing else. -/
theorem App.pdmcEventHandler_registrations {a b : App} {env : Env} {e : ClientEvent}
    (h : a.pdmcEventHandler env e = .ok b) :
    b.registrations = a.registrations + if e.isSetupCompleted then 1 else 0 := by
  rcases pdmcEventHandler_spec h with ⟨he, h⟩ | ⟨-, rfl⟩
  · have hsetup : e.isSetupCompleted = false := ClientEvent.isSetupCompleted_of_isRegistered he
    obtain ⟨_, _, _, _, hb⟩ := pdmcClientRegistered_keeps h
    rw [hsetup, hb]
    rfl
  · unfold registrations afterEvent
    cases e.isSetupCompleted <;> simp [Call.isConnectRegister]

theorem App.pdmcEventHandler_setupCompleted (env : Env) {e : ClientEvent}
    (he : e.isSetupCompleted = true) (a : App) : ∃ b, a.pdmcEventHandler env e = .ok b := by
  obtain ⟨type, id⟩ := e
  cases type with
  | startup => simp [ClientEvent.isSetupCompleted] at he
  | code errorCode =>
    cases id with
    | setupCompleted => exact ⟨_, rfl⟩
    | _ => simp [ClientEvent.isSetupCompleted] at he

namespace Creation

variable {s t : Creation} {i : CreationInput}

theorem step_registrations (h : s.step i = .ok t) :
    t.app.registrations = s.app.registrations + if i.isSetupCompleted then 1 else 0 := by
  cases steps_of_step h with
  | connectInit => rfl
  | answer hnext => exact congrArg (List.countP (·.isConnectRegister)) (createNext_log hnext)
  | proceed _ hlog => exact congrArg (List.countP (·.isConnectRegister)) hlog
  | clientEvent _ hevent => exact App.pdmcEventHandler_registrations hevent

/-- A client that has been told that its setup is complete registers. -/
theorem step_setupCompleted (hi : i.isSetupCompleted = true) (hpoint : s.point ≠ .starting) :
    ∃ t, s.step i = .ok t := by
  cases i with
  | clientEvent env event =>
    obtain ⟨a, ha⟩ := App.pdmcEventHandler_setupCompleted env hi s.app
    refine ⟨{ s with app := a }, ?_⟩
    simp only [step, if_neg hpoint, ha, ok_bind, pure_eq_ok]
  | _ => simp [CreationInput.isSetupCompleted] at hi

theorem ne_starting_of_setupCompleted (h : s.step i = .ok t) (hi : i.isSetupCompleted = true) :
    s.point ≠ .starting := by
  cases steps_of_step h with
  | clientEvent hpoint => exact hpoint
  | _ => simp [CreationInput.isSetupCompleted] at hi

/-- Once the resources are complete they remain so. -/
theorem Steps.isComplete (h : s.Steps i t) (hs : s.point.isComplete = true) :
    t.point.isComplete = true := by
  cases h with
  | connectInit hpoint => simp [hpoint, CreationPoint.isComplete] at hs
  | @answer ok t hnext =>
    obtain ⟨a, p⟩ := s
    cases p <;> simp [CreationPoint.isComplete] at hs <;> simp [createNext] at hnext
  | proceed hpoint =>
    rw [hpoint] at hs
    exact hs
  | clientEvent => exact hs

end Creation

/-- `pdmc_connect_register` is called only after `init_example_resources` has returned
`true`; and where it has returned `false`, it has never been called. -/
def RegistersComplete (a : App) (is : List CreationInput) : Prop :=
  (EachStep Creation.step { app := a } is fun _ s i => ∀ t, s.step i = .ok t →
    t.app.registrations ≠ s.app.registrations → s.point.isComplete = true) ∧
  Always Creation.step { app := a } is fun _ s =>
    s.point.isFailed = true → s.app.registrations = a.registrations

/-- SETUP_COMPLETED is handled only after all six calls have succeeded. -/
def SetUpLate (a : App) (is : List CreationInput) : Prop :=
  EachStep Creation.step { app := a } is fun pre s i =>
    s.point ≠ .starting → i.isSetupCompleted = true → pre.countP (·.isSuccess) = 6

/-- **The client registers with all its resources exactly when SETUP_COMPLETED comes
after the last of them**, for all answers and all events in between. -/
theorem registersComplete_iff (a : App) (is : List CreationInput) :
    RegistersComplete a is ↔ SetUpLate a is := by
  constructor
  · rintro ⟨h, -⟩ pre i s hpre hs hpoint hi
    obtain ⟨t, ht⟩ := Creation.step_setupCompleted hi hpoint
    have hregisters : t.app.registrations ≠ s.app.registrations := by
      rw [Creation.step_registrations ht, if_pos hi]
      omega
    exact (Creation.run_successes hs).isComplete_iff.mp (h pre i s hpre hs t ht hregisters)
  · intro h
    have hcomplete : EachStep Creation.step { app := a } is fun _ s i => ∀ t, s.step i = .ok t →
        t.app.registrations ≠ s.app.registrations → s.point.isComplete = true := by
      intro pre i s hpre hs t ht hne
      have hi : i.isSetupCompleted = true := by
        by_contra hno
        rw [Creation.step_registrations ht, if_neg hno] at hne
        exact hne rfl
      have hpoint : s.point ≠ .starting := Creation.ne_starting_of_setupCompleted ht hi
      exact (Creation.run_successes hs).isComplete_iff.mpr (h pre i s hpre hs hpoint hi)
    refine ⟨hcomplete, ?_⟩
    -- as long as the resources are not complete, nothing has registered
    have hsilent := hcomplete.keeps
      (J := fun _ s => s.point.isComplete = false → s.app.registrations = a.registrations)
      (fun _ => rfl) (by
        intro pre s i t _ hs hstep ht hnot
        have hbefore : s.point.isComplete = false := by
          rw [← Bool.not_eq_true]
          intro hs
          rw [(Creation.steps_of_step ht).isComplete hs] at hnot
          exact absurd hnot (by decide)
        by_contra hne
        rw [← hs hbefore] at hne
        exact absurd (hbefore.symm.trans (hstep t ht hne)) (by decide))
    intro pre s hpre hs hfailed
    exact hsilent pre s hpre hs (CreationPoint.isComplete_of_isFailed hfailed)

/-- The first resource cannot be created, and the client registers all the same. -/
theorem not_registersComplete_first_fails :
    ¬ RegistersComplete { net := { defaultInstance := some ⟨0⟩ } }
        [.connectInit, .answer false, .proceed,
          .clientEvent {} ⟨.code .none, .setupCompleted⟩] := by
  intro h
  have hcomplete := h.1 [.connectInit, .answer false, .proceed] _ _ List.prefix_rfl rfl _ rfl
    (by decide)
  exact absurd hcomplete (by decide)

end PelionClientLite
