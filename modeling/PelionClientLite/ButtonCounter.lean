import PelionClientLite.Device

/-!
# The button counter

The server may write the counter, and each click and each automatic increment adds one
to it.  Beside the device a tally is kept of what the counter should be: the value
written last, and one more for each increment that was read and written.

`increment_button_value` takes the counter through an `int`, and takes it for `-1` when
it cannot be read.

## Main definitions

* `App.increments` — an event of the tasklet increments the counter.
* `Device.tally`, `Device.tallyStep` — the tally, and the device with it.
* `KeepsCount` — what is required of a step.
* `CountsSafely` — what it takes.

## Main results

* `Device.step_counter` — what a step does to the counter.
* `keepsCount_iff` — **the counter is what the tally says exactly as long as it fits an
  `int` whenever it is incremented, and no increment that cannot be read is written over
  anything but zero.**
-/

namespace PelionClientLite

open Machine

/-- The integer fits a signed type of so many bits. -/
def FitsIn (bits : ℕ) (z : ℤ) : Prop := -2 ^ (bits - 1) ≤ z ∧ z < 2 ^ (bits - 1)

theorem fitsIn_32 {z : ℤ} : FitsIn 32 z ↔ -2147483648 ≤ z ∧ z < 2147483648 := by
  simp [FitsIn]

theorem fitsIn_64 {z : ℤ} :
    FitsIn 64 z ↔ -9223372036854775808 ≤ z ∧ z < 9223372036854775808 := by
  simp [FitsIn]

/-- An integer survives an `int` if and only if it fits. -/
theorem bmod_eq_self_iff_fitsIn {z : ℤ} : z.bmod (2 ^ 32) = z ↔ FitsIn 32 z := by
  rw [fitsIn_32, Int.bmod_def]
  constructor
  · intro h
    split at h <;> omega
  · intro h
    split <;> omega

/-! ### What increments the counter -/

namespace App

variable {a b : App} {env : Env}

/-- The event of the tasklet increments the counter. -/
def increments (a : App) : BlinkyEvent → Bool
  | .loopTimer => a.client.registerCalled && a.buttons.resourcePressed
  | .automaticIncrementTimer => a.client.registerCalled
  | _ => false

/-- `registry_get_value_int` returns `REGISTRY_STATUS_OK` for the counter. -/
def readsCounter (env : Env) (a : App) : Bool :=
  env.registryGetValueInt && a.registry.counter.isSome

/-- What `increment_button_value` makes of the counter. -/
def incremented (env : Env) (counter : Option ℤ) : Option ℤ :=
  if env.registrySetValueInt && counter.isSome then
    some (((if env.registryGetValueInt then counter.getD (-1) else -1) + 1).bmod (2 ^ 32))
  else counter

theorem incrementButtonValue_counter (env : Env) (a : App) :
    (a.incrementButtonValue env).2.registry.counter = incremented env a.registry.counter := by
  unfold incrementButtonValue incremented
  dsimp only
  split <;> rfl

theorem incrementButtonValue_fst (env : Env) (a : App) :
    (a.incrementButtonValue env).1 = (env.registrySetValueInt && a.registry.counter.isSome) := by
  unfold incrementButtonValue
  dsimp only
  split
  · next h => exact h.symm
  · next h => simpa using h

theorem clickButtons_counter (env : Env) (a : App) :
    (a.clickButtons env).registry.counter =
      if a.buttons.resourcePressed then incremented env a.registry.counter
      else a.registry.counter := by
  have hunregister : ∀ c : App, (if c.buttons.unregisterPressed then
      { c with buttons := { c.buttons with unregisterPressed := false } }.pdmcClientClose
      else c).registry = c.registry := by
    intro c
    split <;> rfl
  unfold clickButtons
  dsimp only
  rw [hunregister]
  split
  · exact incrementButtonValue_counter env _
  · rfl

theorem blinkyEventHandlerWrapper_counter {type : BlinkyEvent}
    (h : a.blinkyEventHandlerWrapper env type = .ok b) :
    b.registry.counter =
      if a.increments type then incremented env a.registry.counter else a.registry.counter := by
  cases type with
  | loopInit =>
    simp only [blinkyEventHandlerWrapper] at h
    split at h
    · obtain ⟨_, -, rfl⟩ := bind_pure_eq_ok.mp h
      rfl
    · simp at h
  | patternInit =>
    simp only [blinkyEventHandlerWrapper, Except.ok.injEq] at h
    subst h
    rfl
  | patternTimer =>
    obtain ⟨_, -, rfl⟩ := bind_pure_eq_ok.mp h
    rfl
  | loopTimer =>
    obtain ⟨blinky, -, h⟩ := bind_eq_ok.mp h
    dsimp only at h
    cases hcalled : a.client.registerCalled with
    | true =>
      rw [hcalled, if_pos rfl, pure_eq_ok, Except.ok.injEq] at h
      rw [← h, clickButtons_counter, increments, hcalled, Bool.true_and]
    | false =>
      rw [hcalled, if_neg (by decide), pure_eq_ok, Except.ok.injEq] at h
      rw [← h, increments, hcalled, Bool.false_and, if_neg (by decide)]
  | automaticIncrementTimer =>
    obtain ⟨blinky, -, h⟩ := bind_eq_ok.mp h
    dsimp only at h
    cases hcalled : a.client.registerCalled with
    | true =>
      rw [hcalled, if_pos rfl, pure_eq_ok, Except.ok.injEq] at h
      rw [← h, incrementButtonValue_counter, increments, hcalled, if_pos rfl]
    | false =>
      rw [hcalled, if_neg (by decide), pure_eq_ok, Except.ok.injEq] at h
      rw [← h, increments, hcalled, if_neg (by decide)]

/-- An event that increments the counter is handled if there is a tasklet to ask for the
next one. -/
theorem blinkyEventHandlerWrapper_isOk (env : Env) {type : BlinkyEvent}
    (hincr : a.increments type = true) (htasklet : ¬ a.blinky.tasklet < 0) :
    ∃ b, a.blinkyEventHandlerWrapper env type = .ok b := by
  have hrequest : ∀ (timer : BlinkyEvent) (delay : ℤ),
      ∃ r, a.blinky.requestTimedEvent env timer delay = .ok r := by
    intro timer delay
    unfold Blinky.requestTimedEvent
    rw [if_neg htasklet]
    split <;> exact ⟨_, rfl⟩
  cases type with
  | loopTimer =>
    obtain ⟨r, hr⟩ := hrequest .loopTimer buttonPollIntervalMs
    have hcalled : a.client.registerCalled = true := (Bool.and_eq_true_iff.mp hincr).1
    simp [blinkyEventHandlerWrapper, handleButtons, Blinky.requestNextLoopEvent, hr, hcalled]
  | automaticIncrementTimer =>
    obtain ⟨r, hr⟩ := hrequest .automaticIncrementTimer automaticIncrementIntervalMs
    have hcalled : a.client.registerCalled = true := hincr
    simp [blinkyEventHandlerWrapper, handleAutomaticIncrement,
      Blinky.requestAutomaticIncrementEvent, hr, hcalled]
  | loopInit => simp [increments] at hincr
  | patternInit => simp [increments] at hincr
  | patternTimer => simp [increments] at hincr

/-- It is not handled otherwise. -/
theorem tasklet_of_blinkyEventHandlerWrapper {type : BlinkyEvent}
    (hincr : a.increments type = true) (h : a.blinkyEventHandlerWrapper env type = .ok b) :
    ¬ a.blinky.tasklet < 0 := by
  intro htasklet
  have hrequest : ∀ (timer : BlinkyEvent) (delay : ℤ),
      a.blinky.requestTimedEvent env timer delay = .error .assertionFailed :=
    fun timer delay => if_pos htasklet
  cases type with
  | loopTimer =>
    simp [blinkyEventHandlerWrapper, handleButtons, Blinky.requestNextLoopEvent, hrequest] at h
  | automaticIncrementTimer =>
    simp [blinkyEventHandlerWrapper, handleAutomaticIncrement,
      Blinky.requestAutomaticIncrementEvent, hrequest] at h
  | loopInit => simp [increments] at hincr
  | patternInit => simp [increments] at hincr
  | patternTimer => simp [increments] at hincr

/-- What a handler does to the counter. -/
theorem handle_counter {h : Handler} (hb : a.handle h = .ok b) :
    b.registry.counter =
      match h with
      | .putCounter value => some value
      | .taskletEvent env type =>
          if a.increments type then incremented env a.registry.counter else a.registry.counter
      | _ => a.registry.counter := by
  cases h with
  | taskletEvent env type =>
    simp only [handle] at hb
    split at hb
    · have hcounter := blinkyEventHandlerWrapper_counter hb
      exact hcounter
    · simp at hb
  | clientEvent env e =>
    cases handles_of_handle hb with
    | clientEvent _ h =>
      rcases pdmcEventHandler_spec h with ⟨-, h⟩ | ⟨-, rfl⟩
      · obtain ⟨_, _, _, _, rfl⟩ := pdmcClientRegistered_keeps h
        rfl
      · rfl
  | putCounter value =>
    simp only [handle] at hb
    split at hb
    · rw [Except.ok.injEq] at hb
      subst hb
      rfl
    · simp at hb
  | putPattern pattern =>
    simp only [handle] at hb
    split at hb
    · rw [Except.ok.injEq] at hb
      subst hb
      rfl
    · simp at hb
  | _ => cases handles_of_handle hb <;> rfl

end App

/-! ### The tally -/

namespace Device

variable {d t : Device}

/-- What a step makes of the counter. -/
def counterAfter (d : Device) : Input → Option ℤ
  | .run (.putCounter value) => some value
  | .run (.taskletEvent env type) =>
      if d.app.increments type then App.incremented env d.app.registry.counter
      else d.app.registry.counter
  | .initPdmcClient env =>
      if env.addButton && env.setCounter then some 0 else d.app.registry.counter
  | _ => d.app.registry.counter

/-- Steps other than handlers and the start of the client leave the registry alone. -/
theorem registry_eq_of_steps {i : Input} (h : d.Steps i t) (hrun : ∀ h, i ≠ .run h)
    (hinit : ∀ env, i ≠ .initPdmcClient env) : t.app.registry = d.app.registry := by
  cases h with
  | run => exact absurd rfl (hrun _)
  | initPdmcClient => exact absurd rfl (hinit _)
  | wakeUpAwake _ _ hwake =>
    obtain ⟨_, _, _, rfl⟩ := App.wakeUp_keeps hwake
    rfl
  | wakeUpPaused _ _ hwake =>
    obtain ⟨_, _, _, rfl⟩ := App.wakeUp_keeps hwake
    rfl
  | retries _ hretry =>
    obtain ⟨-, -, rfl⟩ := App.retryInitConnection_eq_ok hretry
    rfl
  | _ => rfl

theorem initPdmcClient_counter (env : App.ResourceEnv) (a : App) :
    (a.initPdmcClient env).registry.counter =
      if env.addButton && env.setCounter then some 0 else a.registry.counter := by
  obtain ⟨addButton, setCounter, addPattern, setPattern, addBlink, addUnregister⟩ := env
  cases addButton
  · rfl
  cases setCounter
  · rfl
  cases addPattern
  · rfl
  cases setPattern
  · rfl
  cases addBlink
  · rfl
  cases addUnregister <;> rfl

/-- **What a step does to the counter.** -/
theorem step_counter {i : Input} (h : d.step i = .ok t) :
    t.app.registry.counter = d.counterAfter i := by
  cases i with
  | run hd =>
    simp only [step] at h
    split at h
    · obtain ⟨a, ha, rfl⟩ := bind_pure_eq_ok.mp h
      refine (App.handle_counter ha).trans ?_
      cases hd <;> rfl
    · simp at h
  | initPdmcClient env =>
    cases steps_of_step h with
    | initPdmcClient => exact initPdmcClient_counter env d.app
  | _ =>
    have hregistry := registry_eq_of_steps (steps_of_step h) (by simp) (by simp)
    rw [hregistry]
    rfl

/-- The tally: the value written last, and one more for each call of
`increment_button_value` that has read the counter and returned `REGISTRY_STATUS_OK`. -/
def tally (d : Device) (n : ℤ) : Input → ℤ
  | .run (.putCounter value) => value
  | .run (.taskletEvent env type) =>
      if d.app.increments type && d.app.readsCounter env && (d.app.incrementButtonValue env).1
      then n + 1 else n
  | .initPdmcClient env => if env.addButton && env.setCounter then 0 else n
  | _ => n

/-- One step of the device, with the tally. -/
def tallyStep (u : Device × ℤ) (i : Input) : Except Stop (Device × ℤ) := do
  let d ← u.1.step i
  return (d, u.1.tally u.2 i)

theorem tallyStep_eq_ok {u w : Device × ℤ} {i : Input} :
    tallyStep u i = .ok w ↔ u.1.step i = .ok w.1 ∧ w.2 = u.1.tally u.2 i := by
  obtain ⟨d, n⟩ := w
  unfold tallyStep
  rw [bind_pure_eq_ok]
  constructor
  · intro h
    obtain ⟨e, he, heq⟩ := h
    rw [Prod.mk.injEq] at heq
    exact ⟨heq.1 ▸ he, heq.2.symm⟩
  · intro h
    exact ⟨d, h.1, Prod.ext rfl h.2.symm⟩

/-- The device comes to handle an event of the tasklet, with a tasklet to ask for the next
one. -/
def ReachesTasklet (d : Device) (type : BlinkyEvent) : Prop :=
  d.dispatches = true ∧ type ∈ d.app.blinky.pending ∧ ¬ d.app.blinky.tasklet < 0

theorem reachesTasklet_of_step {env : Env} {type : BlinkyEvent}
    (hincr : d.app.increments type = true) (h : d.step (.run (.taskletEvent env type)) = .ok t) :
    d.ReachesTasklet type := by
  simp only [step] at h
  split at h
  · next hdispatch =>
    obtain ⟨a, ha, -⟩ := bind_pure_eq_ok.mp h
    simp only [App.handle] at ha
    split at ha
    · next hpending =>
      -- taking the event from the queue leaves what it increments
      have hincr' : App.increments { d.app with blinky :=
          { d.app.blinky with pending := d.app.blinky.pending.erase type } } type = true := by
        cases type <;> exact hincr
      have htasklet := App.tasklet_of_blinkyEventHandlerWrapper hincr' ha
      exact ⟨hdispatch, hpending, htasklet⟩
    · simp at ha
  · simp at h

theorem step_of_reachesTasklet (env : Env) {type : BlinkyEvent}
    (hincr : d.app.increments type = true) (h : d.ReachesTasklet type) :
    ∃ t, d.step (.run (.taskletEvent env type)) = .ok t := by
  obtain ⟨hdispatch, hpending, htasklet⟩ := h
  have hincr' : App.increments { d.app with blinky :=
      { d.app.blinky with pending := d.app.blinky.pending.erase type } } type = true := by
    cases type <;> exact hincr
  obtain ⟨a, ha⟩ := App.blinkyEventHandlerWrapper_isOk env hincr' htasklet
  exact ⟨{ d with app := a }, by simp [step, hdispatch, App.handle, hpending, ha]⟩

end Device

/-! ### Keeping count -/

/-- What is required of a step: afterwards the counter is what the tally says, if that
fits 64 bits; and an increment that is not read or not written leaves the counter. -/
structure KeepsCount (u : Device × ℤ) (i : Input) : Prop where
  value : ∀ w v, Device.tallyStep u i = .ok w → w.1.app.registry.counter = some v →
    FitsIn 64 w.2 → v = w.2
  failed : ∀ w env type, i = .run (.taskletEvent env type) → u.1.app.increments type = true →
    Device.tallyStep u i = .ok w →
    (u.1.app.readsCounter env && (u.1.app.incrementButtonValue env).1) = false →
    w.1.app.registry.counter = u.1.app.registry.counter

/-- An increment that is written and has been read fits an `int`, unless it does not even
fit 64 bits; and one that has not been read is written over a zero. -/
def CountsSafely (u : Device × ℤ) (i : Input) : Prop :=
  ∀ env type v, i = .run (.taskletEvent env type) → u.1.app.increments type = true →
    u.1.ReachesTasklet type → env.registrySetValueInt = true →
    u.1.app.registry.counter = some v →
    if env.registryGetValueInt then FitsIn 64 (u.2 + 1) → FitsIn 32 (u.2 + 1) else v = 0

/-- What is known of the device and the tally as long as it has counted safely. -/
structure InStep (u : Device × ℤ) : Prop where
  value : ∀ v, u.1.app.registry.counter = some v → u.2 < 2 ^ 63 → v = u.2
  lower : -2 ^ 63 ≤ u.2

section Counting

variable {u w : Device × ℤ} {i : Input}

/-- What an increment does to the counter and the tally. -/
theorem increment_cases {env : Env} {type : BlinkyEvent} (hincr : u.1.app.increments type = true)
    (h : Device.tallyStep u (.run (.taskletEvent env type)) = .ok w) :
    (∃ v, u.1.app.registry.counter = some v ∧ env.registrySetValueInt = true ∧
        env.registryGetValueInt = true ∧ w.1.app.registry.counter = some ((v + 1).bmod (2 ^ 32)) ∧
        w.2 = u.2 + 1) ∨
      (∃ v, u.1.app.registry.counter = some v ∧ env.registrySetValueInt = true ∧
        env.registryGetValueInt = false ∧ w.1.app.registry.counter = some 0 ∧ w.2 = u.2) ∨
      ((env.registrySetValueInt = false ∨ u.1.app.registry.counter = none) ∧
        w.1.app.registry.counter = u.1.app.registry.counter ∧ w.2 = u.2) := by
  obtain ⟨hstep, htally⟩ := Device.tallyStep_eq_ok.mp h
  have hcounter := Device.step_counter hstep
  simp only [Device.counterAfter, hincr, if_true, App.incremented] at hcounter
  simp only [Device.tally, hincr, Bool.true_and, App.readsCounter,
    App.incrementButtonValue_fst] at htally
  cases hv : u.1.app.registry.counter with
  | none =>
    refine Or.inr (Or.inr ⟨Or.inr rfl, ?_, ?_⟩)
    · simpa [hv] using hcounter
    · simpa [hv] using htally
  | some v =>
    cases hset : env.registrySetValueInt with
    | false =>
      refine Or.inr (Or.inr ⟨Or.inl rfl, ?_, ?_⟩)
      · simpa [hv, hset] using hcounter
      · simpa [hset] using htally
    | true =>
      cases hget : env.registryGetValueInt with
      | true =>
        refine Or.inl ⟨v, rfl, rfl, rfl, ?_, ?_⟩
        · simpa [hv, hset, hget] using hcounter
        · simpa [hv, hset, hget] using htally
      | false =>
        refine Or.inr (Or.inl ⟨v, rfl, rfl, rfl, ?_, ?_⟩)
        · simpa [hv, hset, hget] using hcounter
        · simpa [hget] using htally

/-- A step that counts safely stays in step. -/
theorem inStep_step (h64 : ∀ value, i = .run (.putCounter value) → FitsIn 64 value)
    (hu : InStep u) (hC : CountsSafely u i) (h : Device.tallyStep u i = .ok w) : InStep w := by
  obtain ⟨hstep, htally⟩ := Device.tallyStep_eq_ok.mp h
  have hcounter := Device.step_counter hstep
  have hkept : w.1.app.registry.counter = u.1.app.registry.counter → w.2 = u.2 → InStep w := by
    intro hcounter htally
    refine ⟨fun v hv => ?_, ?_⟩
    · rw [hcounter] at hv
      rw [htally]
      exact hu.value v hv
    · rw [htally]
      exact hu.lower
  cases i with
  | run hd =>
    cases hd with
    | putCounter value =>
      refine ⟨fun v hv _ => ?_, ?_⟩
      · have heq : some value = some v := hcounter.symm.trans hv
        rw [htally]
        exact (Option.some.inj heq).symm
      · have hfits := (fitsIn_64.mp (h64 value rfl)).1
        rw [htally]
        simp only [Device.tally]
        omega
    | taskletEvent env type =>
      cases hincr : u.1.app.increments type with
      | false =>
        simp only [Device.counterAfter, hincr, Bool.false_eq_true, if_false] at hcounter
        simp only [Device.tally, hincr, Bool.false_and, Bool.false_eq_true, if_false] at htally
        exact hkept hcounter htally
      | true =>
        have hreaches := Device.reachesTasklet_of_step hincr hstep
        rcases increment_cases hincr h with ⟨v, hv, hset, hget, hnew, hn⟩ |
          ⟨v, hv, hset, hget, hnew, hn⟩ | ⟨-, hnew, hn⟩
        · have hsafe := hC env type v rfl hincr hreaches hset hv
          rw [hget, if_pos rfl] at hsafe
          have hlower := hu.lower
          refine ⟨fun v' hv' hlt => ?_, by rw [hn]; omega⟩
          rw [hn] at hlt ⊢
          have hvn : v = u.2 := hu.value v hv (by omega)
          have hfits : FitsIn 32 (u.2 + 1) := hsafe (fitsIn_64.mpr (by omega))
          rw [hnew, hvn, bmod_eq_self_iff_fitsIn.mpr hfits, Option.some.injEq] at hv'
          exact hv'.symm
        · have hsafe := hC env type v rfl hincr hreaches hset hv
          rw [hget, if_neg (by decide)] at hsafe
          subst hsafe
          exact hkept (hnew.trans hv.symm) hn
        · exact hkept hnew hn
    | _ => exact hkept hcounter htally
  | initPdmcClient env =>
    simp only [Device.counterAfter] at hcounter
    simp only [Device.tally] at htally
    split at hcounter
    · next hset =>
      rw [if_pos hset] at htally
      refine ⟨fun v hv _ => ?_, by rw [htally]; decide⟩
      rw [hcounter, Option.some.injEq] at hv
      rw [htally]
      exact hv.symm
    · next hset =>
      rw [if_neg hset] at htally
      exact hkept hcounter htally
  | _ => exact hkept hcounter htally

theorem keepsCount_of_countsSafely
    (h64 : ∀ value, i = .run (.putCounter value) → FitsIn 64 value) (hu : InStep u)
    (hC : CountsSafely u i) : KeepsCount u i := by
  refine ⟨?_, ?_⟩
  · intro w v h hv hfits
    have hlt := (fitsIn_64.mp hfits).2
    exact (inStep_step h64 hu hC h).value v hv (by omega)
  · intro w env type hi hincr h hfailed
    subst hi
    have hreaches := Device.reachesTasklet_of_step hincr (Device.tallyStep_eq_ok.mp h).1
    rcases increment_cases hincr h with ⟨v, hv, hset, hget, hnew, hn⟩ |
      ⟨v, hv, hset, hget, hnew, hn⟩ | ⟨-, hnew, hn⟩
    · simp [App.readsCounter, App.incrementButtonValue_fst, hv, hset, hget] at hfailed
    · have hsafe := hC env type v rfl hincr hreaches hset hv
      rw [hget, if_neg (by decide)] at hsafe
      rw [hnew, hv, hsafe]
    · exact hnew

theorem countsSafely_of_keepsCount (hu : InStep u) (hP : KeepsCount u i) : CountsSafely u i := by
  intro env type v hi hincr hreaches hset hv
  subst hi
  obtain ⟨d, hd⟩ := Device.step_of_reachesTasklet env hincr hreaches
  obtain ⟨w, hw⟩ : ∃ w, Device.tallyStep u (.run (.taskletEvent env type)) = .ok w :=
    ⟨_, Device.tallyStep_eq_ok (w := (d, _)).mpr ⟨hd, rfl⟩⟩
  rcases increment_cases hincr hw with ⟨v', hv', -, hget, hnew, hn⟩ |
    ⟨v', hv', -, hget, hnew, hn⟩ | ⟨hno | hno, -, -⟩
  · rw [hget, if_pos rfl]
    intro hfits
    rw [hv, Option.some.injEq] at hv'
    subst hv'
    have hlt := (fitsIn_64.mp hfits).2
    have hvn : v = u.2 := hu.value v hv (by omega)
    have hkept := hP.value w _ hw hnew (hn ▸ hfits)
    rw [hn, hvn] at hkept
    exact bmod_eq_self_iff_fitsIn.mp hkept
  · rw [hget, if_neg (by decide)]
    have hfailed := hP.failed w env type rfl hincr hw (by simp [App.readsCounter, hget])
    rw [hnew, hv, Option.some.injEq] at hfailed
    exact hfailed.symm
  · rw [hset] at hno
    exact absurd hno (by decide)
  · rw [hv] at hno
    simp at hno

end Counting

/-- **The counter is what the tally says exactly as long as the device counts safely**,
for all runs in which the server writes 64-bit integers. -/
theorem keepsCount_iff (defaultInstance : Option NetworkInterface) (is : List Input)
    (h64 : ∀ value, .run (.putCounter value) ∈ is → FitsIn 64 value) :
    (EachStep Device.tallyStep (.boot defaultInstance, 0) is fun _ u i => KeepsCount u i) ↔
      EachStep Device.tallyStep (.boot defaultInstance, 0) is fun _ u i => CountsSafely u i := by
  have hboot : InStep (Device.boot defaultInstance, 0) := by
    refine ⟨fun v hv => ?_, (by decide : (-2 ^ 63 : ℤ) ≤ 0)⟩
    have hnone : (Device.boot defaultInstance).app.registry.counter = none := by
      cases defaultInstance <;> rfl
    rw [hnone] at hv
    simp at hv
  refine eachStep_iff (fun _ u => InStep u) hboot ?_ ?_ ?_
  · intro pre u i w hi hu hC h
    exact inStep_step (fun value heq => h64 value (heq ▸ hi)) hu hC h
  · intro pre u i hi hu hC
    exact keepsCount_of_countsSafely (fun value heq => h64 value (heq ▸ hi)) hu hC
  · intro pre u i _ hu hP
    exact countsSafely_of_keepsCount hu hP

/-- The server writes `41`, the client registers, and the button is clicked. -/
theorem keepsCount_written_and_clicked :
    EachStep Device.tallyStep (.boot (some ⟨0⟩), 0)
      (Device.startUp ++ [.run (.putCounter 41),
        .run (.clientEvent {} ⟨.code .none, .objectRegistered⟩),
        .press { resourcePressed := true }] ++ [.run (.taskletEvent {} .loopTimer)])
      fun _ u i => KeepsCount u i := by
  refine (keepsCount_iff _ _ ?_).mpr ?_
  · intro value h
    have hvalue : value = 41 := by simpa [Device.startUp] using h
    rw [hvalue]
    exact fitsIn_64.mpr (by decide)
  · have hbefore : ∃ u, run Device.tallyStep (.boot (some ⟨0⟩), 0) (Device.startUp ++
        [.run (.putCounter 41), .run (.clientEvent {} ⟨.code .none, .objectRegistered⟩),
          .press { resourcePressed := true }]) = .ok u ∧ u.2 = 41 := ⟨_, rfl, rfl⟩
    obtain ⟨u, hu, htally⟩ := hbefore
    refine (eachStep_concat hu).mpr ⟨?_, ?_⟩
    · intro pre i v hpre _ env type w hi
      subst hi
      have hmem := hpre.subset (List.mem_append_right pre (List.mem_singleton_self _))
      simp [Device.startUp] at hmem
    · rintro env type v ⟨⟩ - - - -
      rw [if_pos rfl, htally]
      exact fun _ => ⟨by decide, by decide⟩

/-- The server writes the largest `int`, and the button is clicked. -/
theorem not_keepsCount_largest_int :
    ¬ EachStep Device.tallyStep (.boot (some ⟨0⟩), 0)
      (Device.startUp ++ [.run (.clientEvent {} ⟨.code .none, .objectRegistered⟩),
        .run (.putCounter 2147483647), .press { resourcePressed := true },
        .run (.taskletEvent {} .loopTimer)]) fun _ u i => KeepsCount u i := by
  intro h
  have hstep := h (Device.startUp ++ [.run (.clientEvent {} ⟨.code .none, .objectRegistered⟩),
    .run (.putCounter 2147483647), .press { resourcePressed := true }])
    (.run (.taskletEvent {} .loopTimer)) _ List.prefix_rfl rfl
  have hvalue := hstep.value _ (-2147483648) rfl rfl (fitsIn_64.mpr (by decide))
  exact absurd hvalue (by decide)

end PelionClientLite
