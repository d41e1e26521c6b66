import PelionClientLite.ButtonCounter
import PelionClientLite.ExecuteResponse
import PelionClientLite.Schedule

/-!
# The player within the device

The pattern player shares its object, its tasklet and its event queue with the periodic
timers, and the device does much else besides.  None of it is seen by the player: of all
that happens to the device it takes part in the POSTs that start a pattern and in the
pattern timers, and in these it is what it is alone.

## Main definitions

* `Blinky.patternOnly` — the player without its periodic timers.
* `Device.playerInput` — what the player sees of a step of the device.
* `lastPattern` — the pattern last written.

## Main results

* `Device.step_isPlayer` — what each step of the device is to the player.
* `device_refines_player` — **the device runs the player**: seen by the player, every run
  of the device is one of its own, and a POST plays the pattern last written.
* `device_plays_delays` — **a POST that finds no pattern timer pending plays its pattern
  as it reads**, whatever else happens meanwhile.
-/

namespace PelionClientLite

open CLib Machine

/-! ### The player alone -/

/-- A call made for a pattern. -/
def BlinkyCall.isPattern : BlinkyCall → Bool
  | .sendAfter type _ => type = .patternTimer
  | .toggleLed => true

namespace Blinky

variable {b b' : Blinky} {env : Env}

/-- The player without its periodic timers, with a tasklet that is there. -/
def patternOnly (b : Blinky) : Blinky :=
  { b with
    buttonCount := 0
    tasklet := 0
    staticBlinky := true
    pending := b.pending.filter (· = .patternTimer)
    log := b.log.filter BlinkyCall.isPattern }

theorem patternOnly_tasklet (b : Blinky) : ¬ b.patternOnly.tasklet < 0 := by
  show ¬ (0 : ℤ) < 0
  omega

theorem patternOnly_pendingCount (b : Blinky) :
    b.patternOnly.pendingCount .patternTimer = b.pendingCount .patternTimer :=
  List.count_filter (by simp)

theorem mem_patternOnly_pending :
    .patternTimer ∈ b.patternOnly.pending ↔ .patternTimer ∈ b.pending := by
  simp [patternOnly, List.mem_filter]

theorem getNextInt_patternOnly {delay : ℤ} (h : b.getNextInt = .ok (delay, b')) :
    b.patternOnly.getNextInt = .ok (delay, b'.patternOnly) := by
  unfold getNextInt at h ⊢
  simp only [patternOnly]
  split at h
  · simp at h
  · next p hp =>
    split at h
    · simp at h
    · next s hs =>
      split at h
      · next hlt =>
        simp only [Except.ok.injEq, Prod.mk.injEq] at h
        obtain ⟨rfl, rfl⟩ := h
        simp only [if_pos hlt]
      · simp at h

/-- A request for a pattern timer is seen. -/
theorem requestTimedEvent_patternTimer {delay : ℤ} {sent : Bool}
    (h : b.requestTimedEvent env .patternTimer delay = .ok (sent, b')) :
    b.patternOnly.requestTimedEvent env .patternTimer delay = .ok (sent, b'.patternOnly) := by
  unfold requestTimedEvent at h ⊢
  rw [if_neg b.patternOnly_tasklet]
  split at h
  · simp at h
  · split at h
    · next hgranted =>
      rw [Except.ok.injEq, Prod.mk.injEq] at h
      rw [if_pos hgranted, ← h.1, ← h.2]
      simp [patternOnly, BlinkyCall.isPattern]
    · next hgranted =>
      rw [Except.ok.injEq, Prod.mk.injEq] at h
      rw [if_neg hgranted, ← h.1, ← h.2]

theorem runStep_patternOnly {success : Bool} (h : b.runStep env = .ok (success, b')) :
    b.patternOnly.runStep env = .ok (success, b'.patternOnly) := by
  obtain ⟨⟨delay, b₁⟩, hget, h⟩ := bind_eq_ok.mp h
  simp only [runStep, getNextInt_patternOnly hget, ok_bind]
  dsimp only at h
  split at h
  · next hneg =>
    simp only [pure_eq_ok, Except.ok.injEq, Prod.mk.injEq] at h
    rw [if_pos hneg, ← h.1, ← h.2]
    rfl
  · next hneg =>
    obtain ⟨⟨sent, b₂⟩, hsend, h⟩ := bind_eq_ok.mp h
    rw [if_neg hneg, requestTimedEvent_patternTimer hsend, ok_bind]
    dsimp only at h ⊢
    split at h
    · next hsent =>
      simp only [pure_eq_ok, Except.ok.injEq, Prod.mk.injEq] at h
      rw [if_pos hsent, ← h.1, ← h.2]
      rfl
    · simp at h

theorem handlePatternEvent_patternOnly (h : b.handlePatternEvent env = .ok b') :
    b.patternOnly.handlePatternEvent env = .ok b'.patternOnly := by
  obtain ⟨⟨success, b₁⟩, hstep, h⟩ := bind_eq_ok.mp h
  simp only [handlePatternEvent, runStep_patternOnly hstep, ok_bind]
  dsimp only at h
  have hrestart : b₁.patternOnly.restart = b₁.restart := rfl
  rw [hrestart]
  split at h
  · next hcond =>
    obtain ⟨⟨_, b₂⟩, hstep₂, h⟩ := bind_eq_ok.mp h
    simp only [pure_eq_ok, Except.ok.injEq] at h
    subst h
    have hstep₂' := runStep_patternOnly hstep₂
    rw [if_pos hcond]
    -- both readings start at the pattern; the cursor of the second is set back first
    simp only [patternOnly] at hstep₂' ⊢
    simp only [hstep₂', ok_bind, pure_eq_ok]
  · next hcond =>
    simp only [pure_eq_ok, Except.ok.injEq] at h
    subst h
    rw [if_neg hcond]
    rfl

theorem createTasklet_patternOnly (h : b.createTasklet env = .ok b') :
    b'.patternOnly = b.patternOnly := by
  unfold createTasklet at h
  split at h
  · split at h
    · simp at h
    · rw [Except.ok.injEq] at h
      subst h
      simp [patternOnly]
  · rw [Except.ok.injEq] at h
    rw [h]

theorem start_patternOnly {pattern : List UInt8} {r success : Bool}
    (h : b.start env pattern r = .ok (success, b')) :
    b.patternOnly.start env pattern r = .ok (success, b'.patternOnly) := by
  obtain ⟨b₁, hcreate, h⟩ := bind_eq_ok.mp h
  have hsame := createTasklet_patternOnly hcreate
  -- seen by the player, the tasklet is always there
  have hcreate' : b.patternOnly.createTasklet env = .ok b.patternOnly :=
    if_neg b.patternOnly_tasklet
  simp only [start, hcreate', ok_bind]
  rw [← hsame]
  dsimp only at h
  split at h
  · next hmalloc =>
    have hstep := runStep_patternOnly h
    rw [if_pos hmalloc]
    exact hstep
  · next hmalloc =>
    simp only [pure_eq_ok, Except.ok.injEq, Prod.mk.injEq] at h
    obtain ⟨rfl, rfl⟩ := h
    rw [if_neg hmalloc]
    rfl

/-- A request for another timer is not seen. -/
theorem requestTimedEvent_patternOnly {type : BlinkyEvent} {delay : ℤ} {sent : Bool}
    (htype : type ≠ .patternTimer) (h : b.requestTimedEvent env type delay = .ok (sent, b')) :
    b'.patternOnly = b.patternOnly := by
  unfold requestTimedEvent at h
  split at h
  · simp at h
  · split at h
    · simp only [Except.ok.injEq, Prod.mk.injEq] at h
      obtain ⟨-, rfl⟩ := h
      cases type <;> simp_all [patternOnly, BlinkyCall.isPattern]
    · simp only [Except.ok.injEq, Prod.mk.injEq] at h
      rw [h.2]

theorem requestNextLoopEvent_patternOnly (h : b.requestNextLoopEvent env = .ok b') :
    b'.patternOnly = b.patternOnly := by
  obtain ⟨⟨sent, b₁⟩, hrequest, h⟩ := bind_eq_ok.mp h
  simp only [pure_eq_ok, Except.ok.injEq] at h
  subst h
  exact requestTimedEvent_patternOnly (by decide) hrequest

theorem requestAutomaticIncrementEvent_patternOnly
    (h : b.requestAutomaticIncrementEvent env = .ok b') : b'.patternOnly = b.patternOnly := by
  obtain ⟨⟨sent, b₁⟩, hrequest, h⟩ := bind_eq_ok.mp h
  simp only [pure_eq_ok, Except.ok.injEq] at h
  subst h
  exact requestTimedEvent_patternOnly (by decide) hrequest

end Blinky

/-! ### What the player sees of the device -/

/-- What the player sees of a handler: a POST starts the pattern that is stored, up to its
NUL, and a pattern timer is delivered. -/
def App.playerInput (a : App) : Handler → Option PlayerInput
  | .blinkCallback env .execute _ _ =>
      a.registry.pattern.map fun patternStr => .start env (patternStr.takeWhile (· != 0)) false
  | .taskletEvent env .patternTimer => some (.patternTimer env)
  | _ => none

/-- What the player sees of a step of the device. -/
def Device.playerInput (d : Device) : Input → Option PlayerInput
  | .run h => d.app.playerInput h
  | _ => none

namespace App

variable {a b : App} {env : Env}

/-- A POST starts the pattern that is stored. -/
theorem handle_post {path : RegistryPath} {token : Token}
    (h : a.handle (.blinkCallback env .execute path token) = .ok b) :
    ∃ patternStr success, a.registry.pattern = some patternStr ∧
      a.blinky.start env (patternStr.takeWhile (· != 0)) false = .ok (success, b.blinky) := by
  simp only [handle, blinkCallback] at h
  split at h
  · cases hpattern : a.patternStr env with
    | none => simp [hpattern] at h
    | some patternStr =>
      simp only [hpattern] at h
      obtain ⟨⟨success, blinky⟩, hstart, h⟩ := bind_eq_ok.mp h
      simp only [pure_eq_ok, Except.ok.injEq] at h
      exact ⟨patternStr, success, (patternStr_eq_some.mp hpattern).2, by rw [← h]; exact hstart⟩
  · simp at h

theorem Clicked.patternOnly (h : a.Clicked b) : b.blinky.patternOnly = a.blinky.patternOnly := by
  obtain ⟨_, _, _, _, rfl, -⟩ := h
  rfl

/-- OBJECT_REGISTERED is not seen. -/
theorem pdmcClientRegistered_patternOnly (h : a.pdmcClientRegistered env = .ok b) :
    b.blinky.patternOnly = a.blinky.patternOnly := by
  obtain ⟨b₁, b₂, blinky, client, h₁, h₂, h₃, -, rfl⟩ := pdmcClientRegistered_spec h
  have hloop := Blinky.requestNextLoopEvent_patternOnly h₂
  have hincrement := Blinky.requestAutomaticIncrementEvent_patternOnly h₃
  exact hincrement.trans (hloop.trans (Blinky.createTasklet_patternOnly h₁))

end App

namespace Blinky

variable {b b' : Blinky} {env : Env}

theorem patternOnly_erase_patternTimer (b : Blinky) :
    ({ b with pending := b.pending.erase .patternTimer } : Blinky).patternOnly =
      { b.patternOnly with pending := b.patternOnly.pending.erase .patternTimer } := by
  simp [patternOnly, List.erase_filter]

theorem patternOnly_erase {type : BlinkyEvent} (htype : type ≠ .patternTimer) (b : Blinky) :
    ({ b with pending := b.pending.erase type } : Blinky).patternOnly = b.patternOnly := by
  -- what is taken away is not among the pattern timers
  have hnot : type ∉ b.pending.filter (· = .patternTimer) := by simp [List.mem_filter, htype]
  simp [patternOnly, ← List.erase_filter, List.erase_of_not_mem hnot]

/-- Events of the tasklet other than the pattern timer are not seen. -/
theorem onEvent_patternOnly {type : BlinkyEvent} (htype : type ≠ .patternTimer)
    (h : b.onEvent env type = .ok b') : b'.patternOnly = b.patternOnly := by
  cases type with
  | patternTimer => exact absurd rfl htype
  | loopInit =>
    simp only [onEvent] at h
    split at h
    · exact requestNextLoopEvent_patternOnly h
    · simp at h
  | loopTimer => exact requestNextLoopEvent_patternOnly h
  | automaticIncrementTimer => exact requestAutomaticIncrementEvent_patternOnly h
  | patternInit =>
    simp only [onEvent, Except.ok.injEq] at h
    rw [h]

end Blinky

namespace App

variable {a b : App} {h : Handler}

/-- What the player does not see leaves it as it is. -/
theorem patternOnly_of_playerInput_eq_none (hb : a.handle h = .ok b)
    (hnone : a.playerInput h = none) : b.blinky.patternOnly = a.blinky.patternOnly := by
  have hhandles := handles_of_handle hb
  cases h with
  | blinkCallback env type path token =>
    cases type with
    | execute =>
      obtain ⟨patternStr, success, hpattern, -⟩ := handle_post hb
      simp [playerInput, hpattern] at hnone
    | _ =>
      cases hhandles
      rfl
  | taskletEvent env type =>
    have htype : type ≠ .patternTimer := by
      rintro rfl
      simp [playerInput] at hnone
    cases hhandles with
    | taskletEvent _ hevent hclicked =>
      -- first the event is taken from the queue, then handled, and last the buttons are read
      have hseen := Blinky.onEvent_patternOnly htype hevent
      exact hclicked.patternOnly.trans (hseen.trans (Blinky.patternOnly_erase htype _))
  | clientEvent env e =>
    cases hhandles with
    | clientEvent _ hevent =>
      rcases pdmcEventHandler_spec hevent with ⟨-, hregistered⟩ | ⟨-, rfl⟩
      · exact pdmcClientRegistered_patternOnly hregistered
      · rfl
  | _ =>
    cases hhandles
    rfl

/-- **What the player sees, it does.** -/
theorem step_of_playerInput_eq_some (hb : a.handle h = .ok b) {j : PlayerInput}
    (hsome : a.playerInput h = some j) {p : Player} (hp : p.blinky = a.blinky.patternOnly) :
    ∃ q, p.step j = .ok q ∧ q.blinky = b.blinky.patternOnly := by
  unfold playerInput at hsome
  split at hsome
  · obtain ⟨patternStr, success, hpattern, hstart⟩ := handle_post hb
    rw [hpattern, Option.map_some, Option.some.injEq] at hsome
    subst hsome
    refine ⟨{ blinky := b.blinky.patternOnly, lastStart := some success }, ?_, rfl⟩
    simp [Player.step, hp, Blinky.start_patternOnly hstart]
  · rw [Option.some.injEq] at hsome
    subst hsome
    cases handles_of_handle hb with
    | @taskletEvent _ _ blinky _ hpending hevent hclicked =>
      have hevent' := Blinky.handlePatternEvent_patternOnly hevent
      rw [Blinky.patternOnly_erase_patternTimer, ← hp] at hevent'
      have hpending' : .patternTimer ∈ p.blinky.pending := by
        rw [hp]
        exact Blinky.mem_patternOnly_pending.mpr hpending
      refine ⟨{ p with blinky := blinky.patternOnly }, ?_, hclicked.patternOnly.symm⟩
      simp [Player.step, hpending', hevent']
  · simp at hsome

end App

namespace Device

variable {d t : Device} {i : Input}

theorem handle_of_step {h : Handler} (hstep : d.step (.run h) = .ok t) :
    d.app.handle h = .ok t.app := by
  simp only [step] at hstep
  split at hstep
  · obtain ⟨a, ha, rfl⟩ := bind_pure_eq_ok.mp hstep
    exact ha
  · simp at hstep

/-- The player is what it is alone. -/
def IsPlayer (d : Device) (p : Player) : Prop := p.blinky = d.app.blinky.patternOnly

/-- **What each step of the device is to the player.** -/
theorem step_isPlayer (hstep : d.step i = .ok t) {p : Player} (hp : d.IsPlayer p) :
    (d.playerInput i = none → t.IsPlayer p) ∧
      ∀ j, d.playerInput i = some j → ∃ q, p.step j = .ok q ∧ t.IsPlayer q := by
  cases i with
  | run h =>
    have hb := handle_of_step hstep
    exact ⟨fun hnone => hp.trans (App.patternOnly_of_playerInput_eq_none hb hnone).symm,
      fun j hj => App.step_of_playerInput_eq_some hb hj hp⟩
  | _ =>
    refine ⟨fun _ => ?_, by simp [playerInput]⟩
    rcases step_cases hstep with ⟨h, hi, -⟩ | ⟨env, -, heq⟩ | ⟨-, -, huntouched⟩
    · simp at hi
    · obtain ⟨_, _, hinit⟩ := App.initPdmcClient_spec env d.app
      rw [IsPlayer, heq, hinit]
      exact hp
    · rw [IsPlayer, huntouched.blinky]
      exact hp

end Device

/-! ### The pattern that is stored -/

/-- The pattern a step writes: what the server puts, or the pattern a device starts with. -/
def Input.pattern : Input → Option (List UInt8)
  | .run (.putPattern pattern) => some pattern
  | .initPdmcClient env =>
      if env.addButton && env.setCounter && env.addPattern && env.setPattern then
        some App.defaultPattern
      else none
  | _ => none

/-- The pattern last written. -/
def lastPattern (is : List Input) : Option (List UInt8) := is.reverse.findSome? Input.pattern

theorem lastPattern_concat (is : List Input) (i : Input) :
    lastPattern (is ++ [i]) = (i.pattern <|> lastPattern is) := by
  rw [lastPattern, List.reverse_append, List.reverse_singleton, List.singleton_append,
    List.findSome?_cons, lastPattern]
  cases i.pattern <;> rfl

namespace App

variable {a b : App} {env : Env}

theorem incrementButtonValue_registry (env : Env) (a : App) :
    ∃ counter, (a.incrementButtonValue env).2.registry = { a.registry with counter } := by
  unfold incrementButtonValue
  dsimp only
  split
  · exact ⟨_, rfl⟩
  · exact ⟨a.registry.counter, rfl⟩

theorem clickButtons_registry (env : Env) (a : App) :
    ∃ counter, (a.clickButtons env).registry = { a.registry with counter } := by
  -- the unregister button closes the client and touches no resource
  have hunregister : ∀ c : App, (if c.buttons.unregisterPressed then
      { c with buttons := { c.buttons with unregisterPressed := false } }.pdmcClientClose
      else c).registry = c.registry := by
    intro c
    split <;> rfl
  unfold clickButtons
  dsimp only
  rw [hunregister]
  split
  · exact incrementButtonValue_registry env _
  · exact ⟨a.registry.counter, rfl⟩

/-- The events of the tasklet write the counter at most. -/
theorem blinkyEventHandlerWrapper_registry {type : BlinkyEvent}
    (h : a.blinkyEventHandlerWrapper env type = .ok b) :
    ∃ counter, b.registry = { a.registry with counter } := by
  cases type with
  | loopInit =>
    simp only [blinkyEventHandlerWrapper] at h
    split at h
    · obtain ⟨_, -, rfl⟩ := bind_pure_eq_ok.mp h
      exact ⟨a.registry.counter, rfl⟩
    · simp at h
  | patternInit =>
    simp only [blinkyEventHandlerWrapper, Except.ok.injEq] at h
    subst h
    exact ⟨a.registry.counter, rfl⟩
  | patternTimer =>
    obtain ⟨_, -, rfl⟩ := bind_pure_eq_ok.mp h
    exact ⟨a.registry.counter, rfl⟩
  | loopTimer =>
    obtain ⟨blinky, -, h⟩ := bind_eq_ok.mp h
    dsimp only at h
    split at h <;> rw [pure_eq_ok, Except.ok.injEq] at h <;> subst h
    · exact clickButtons_registry env _
    · exact ⟨a.registry.counter, rfl⟩
  | automaticIncrementTimer =>
    obtain ⟨blinky, -, h⟩ := bind_eq_ok.mp h
    dsimp only at h
    split at h <;> rw [pure_eq_ok, Except.ok.injEq] at h <;> subst h
    · exact incrementButtonValue_registry env _
    · exact ⟨a.registry.counter, rfl⟩

/-- What a handler writes to the registry: the counter, or the pattern it is told to. -/
theorem handle_registry {h : Handler} (hb : a.handle h = .ok b) :
    ∃ counter, b.registry = { a.registry with
      counter, pattern := (Input.run h).pattern <|> a.registry.pattern } := by
  cases h with
  | taskletEvent env type =>
    simp only [handle] at hb
    split at hb
    · obtain ⟨counter, hregistry⟩ := blinkyEventHandlerWrapper_registry hb
      exact ⟨counter, hregistry⟩
    · simp at hb
  | clientEvent env e =>
    cases handles_of_handle hb with
    | clientEvent _ h =>
      rcases pdmcEventHandler_spec h with ⟨-, h⟩ | ⟨-, rfl⟩
      · obtain ⟨_, _, _, _, rfl⟩ := pdmcClientRegistered_keeps h
        exact ⟨a.registry.counter, rfl⟩
      · exact ⟨a.registry.counter, rfl⟩
  | putCounter value =>
    simp only [handle] at hb
    split at hb
    · rw [Except.ok.injEq] at hb
      subst hb
      exact ⟨some value, rfl⟩
    · simp at hb
  | putPattern pattern =>
    simp only [handle] at hb
    split at hb
    · rw [Except.ok.injEq] at hb
      subst hb
      exact ⟨a.registry.counter, rfl⟩
    · simp at hb
  | _ => cases handles_of_handle hb <;> exact ⟨a.registry.counter, rfl⟩

theorem initPdmcClient_pattern (env : ResourceEnv) (a : App) :
    (a.initPdmcClient env).registry.pattern =
      ((Input.initPdmcClient env).pattern <|> a.registry.pattern) := by
  obtain ⟨addButton, setCounter, addPattern, setPattern, addBlink, addUnregister⟩ := env
  cases addButton
  · rfl
  cases setCounter
  · rfl
  cases addPattern
  · rfl
  cases setPattern
  · rfl
  cases addBlink
  · rfl
  cases addUnregister <;> rfl

end App

namespace Device

variable {d t : Device} {i : Input}

theorem step_pattern (h : d.step i = .ok t) :
    t.app.registry.pattern = (i.pattern <|> d.app.registry.pattern) := by
  cases i with
  | run hd =>
    obtain ⟨_, hregistry⟩ := App.handle_registry (handle_of_step h)
    rw [hregistry]
  | initPdmcClient env =>
    cases steps_of_step h with
    | initPdmcClient => exact App.initPdmcClient_pattern env d.app
  | _ =>
    have hregistry := registry_eq_of_steps (steps_of_step h) (by simp) (by simp)
    rw [hregistry]
    rfl

/-- The pattern stored is the one last written. -/
theorem run_pattern {defaultInstance : Option NetworkInterface} {is : List Input}
    (h : run step (boot defaultInstance) is = .ok d) :
    d.app.registry.pattern = lastPattern is := by
  refine run_induction (P := fun is (d : Device) => d.app.registry.pattern = lastPattern is)
    rfl ?_ h
  -- by induction on the run: no step but a writing one changes what is stored
  intro is u i t _ hu hstep
  rw [lastPattern_concat, ← hu]
  exact step_pattern hstep

end Device

/-- **The device runs the player.**  Seen by the player, every run of the device is one of
its own, from the player as it is first; and each start plays the pattern last written, once. -/
theorem device_refines_player (defaultInstance : Option NetworkInterface) (is : List Input) :
    (Always Device.step (.boot defaultInstance) is fun pre d =>
      ∃ p, run Player.step { blinky := Blinky.patternOnly {} }
          (seen Device.step Device.playerInput (.boot defaultInstance) pre) = .ok p ∧
        d.IsPlayer p) ∧
      EachStep Device.step (.boot defaultInstance) is fun pre d i =>
        ∀ env pattern r, d.playerInput i = some (.start env pattern r) → r = false ∧
          ∃ patternStr, lastPattern pre = some patternStr ∧
            pattern = patternStr.takeWhile (· != 0) := by
  constructor
  · intro pre d _ h
    refine run_seen (R := Device.IsPlayer) ?_ ?_ rfl h
    · intro d i t p hp hstep hnone
      exact (Device.step_isPlayer hstep hp).1 hnone
    · intro d i t p j hp hstep hj
      exact (Device.step_isPlayer hstep hp).2 j hj
  · intro pre i d _ hd env pattern r hinput
    have hpattern := Device.run_pattern hd
    unfold Device.playerInput App.playerInput at hinput
    split at hinput
    · split at hinput
      · obtain ⟨patternStr, hstr, heq⟩ := Option.map_eq_some_iff.mp hinput
        rw [PlayerInput.start.injEq] at heq
        exact ⟨heq.2.2.symm, patternStr, hpattern ▸ hstr, heq.2.1.symm⟩
      · simp at hinput
      · simp at hinput
    · simp at hinput

/-! ### A POST in the midst of everything -/

/-- A pattern timer is delivered. -/
def Input.isPatternTimer : Input → Bool
  | .run (.taskletEvent _ .patternTimer) => true
  | _ => false

/-- How far a pattern has been played after `n` timers, if `log` is what had been asked for
before: for each timer but the one that finds the end, another delay has been requested
and the LED toggled. -/
structure PlayedSoFar (text : List UInt8) (log : List BlinkyCall) (n : ℕ) (b : Blinky) : Prop where
  bounded : n ≤ (delays text).length
  log : b.patternOnly.log = played ((delays text).take (n + 1)) ++ log
  pending : b.pendingCount .patternTimer = if n < (delays text).length then 1 else 0
  state : b.state = if n < (delays text).length then .started else .idle

/-- The player is at a playback some timers after its start. -/
def PlaysAfter (text : List UInt8) (log : List BlinkyCall) (n : ℕ) (b : Blinky) : Prop :=
  n ≤ (delays text).length ∧ ∃ v, Plays b.patternOnly v ∧ v.After text false log n

/-- What is read up to its NUL has none. -/
theorem nul_notMem (s : List UInt8) : 0 ∉ s.takeWhile (· != 0) := by
  intro hmem
  simpa using List.mem_takeWhile_imp hmem

theorem PlaysAfter.playedSoFar {text : List UInt8} {log : List BlinkyCall} {n : ℕ} {b : Blinky}
    (h : PlaysAfter text log n b) : PlayedSoFar text log n b := by
  obtain ⟨hle, v, hb, hv⟩ := h
  have hlog : b.patternOnly.log = played ((delays text).take (n + 1)) ++ log := by
    rw [hb.log, hv.log, schedule_false]
  have hpending := b.patternOnly_pendingCount.symm.trans hb.due
  by_cases hlt : n < (delays text).length
  · obtain ⟨hdue, hstate, -⟩ := hv.started hlt
    refine ⟨hle, hlog, ?_, ?_⟩
    · rw [if_pos hlt, hpending, hdue]
    · rw [if_pos hlt]
      exact hb.state.trans hstate
  · obtain ⟨hdue, hstate⟩ := hv.idle hlt
    refine ⟨hle, hlog, ?_, ?_⟩
    · rw [if_neg hlt, hpending, hdue]
    · rw [if_neg hlt]
      exact hb.state.trans hstate

namespace Device

variable {d t : Device} {i : Input} {text : List UInt8} {log : List BlinkyCall} {n : ℕ}

/-- Where a pattern timer brings a player from `Q n` to `Q (n + 1)`, so does each step of the
device that delivers one; the others, short of a POST, leave it as it is. -/
theorem step_patternTimers {Q : ℕ → Blinky → Prop}
    (htimer : ∀ {n p q env}, Q n p.blinky → Player.step p (.patternTimer env) = .ok q →
      Q (n + 1) q.blinky) (hstep : d.step i = .ok t) (hpost : ¬ i.IsPost)
    (hd : Q n d.app.blinky.patternOnly) :
    Q (if i.isPatternTimer then n + 1 else n) t.app.blinky.patternOnly := by
  -- the player alone, as it is before this step
  have hplayer := step_isPlayer hstep (p := ⟨d.app.blinky.patternOnly, none⟩) rfl
  cases hinput : d.playerInput i with
  | none =>
    have hnot : i.isPatternTimer = false := by
      cases htimer : i.isPatternTimer with
      | false => rfl
      | true =>
        unfold Input.isPatternTimer at htimer
        split at htimer
        · simp [playerInput, App.playerInput] at hinput
        · simp at htimer
    have hsame : d.app.blinky.patternOnly = t.app.blinky.patternOnly := hplayer.1 hinput
    rw [hnot, ← hsame]
    exact hd
  | some j =>
    obtain ⟨q, hq, hq'⟩ := hplayer.2 j hinput
    unfold playerInput App.playerInput at hinput
    split at hinput
    · split at hinput
      · exact absurd ⟨_, _, _, rfl⟩ hpost
      · rw [Option.some.injEq] at hinput
        subst hinput
        have hblinky : q.blinky = t.app.blinky.patternOnly := hq'
        rw [← hblinky]
        exact htimer (p := ⟨d.app.blinky.patternOnly, none⟩) hd hq
      · simp at hinput
    · simp at hinput

/-- Over a run short of a POST, the pattern timers count. -/
theorem run_patternTimers {Q : ℕ → Blinky → Prop}
    (htimer : ∀ {n p q env}, Q n p.blinky → Player.step p (.patternTimer env) = .ok q →
      Q (n + 1) q.blinky) {is : List Input} (hrun : run step d is = .ok t)
    (hposts : ∀ i ∈ is, ¬ i.IsPost) (hd : Q n d.app.blinky.patternOnly) :
    Q (n + is.countP (·.isPatternTimer)) t.app.blinky.patternOnly := by
  refine run_induction (P := fun is (t : Device) => (∀ i ∈ is, ¬ i.IsPost) →
    Q (n + is.countP (·.isPatternTimer)) t.app.blinky.patternOnly) ?_ ?_ hrun hposts
  · intro _
    exact hd
  · intro is u i t _ ih hstep hposts
    rw [List.forall_mem_append, List.forall_mem_singleton] at hposts
    have hnext := step_patternTimers (Q := Q) htimer hstep hposts.2 (ih hposts.1)
    rw [List.countP_append, List.countP_singleton]
    cases htimer : i.isPatternTimer with
    | false => simpa [htimer] using hnext
    | true =>
      rw [htimer, if_pos rfl] at hnext
      rw [if_pos rfl, ← Nat.add_assoc]
      exact hnext

/-- Whatever happens after a POST, short of another one, the pattern is played: a timer that
is delivered finds a delay to go on to, or the end. -/
theorem run_playsAfter (h0 : 0 ∉ text) {is : List Input} (hrun : run step d is = .ok t)
    (hposts : ∀ i ∈ is, ¬ i.IsPost) (hd : PlaysAfter text log n d.app.blinky) :
    PlaysAfter text log (n + is.countP (·.isPatternTimer)) t.app.blinky := by
  refine run_patternTimers (Q := fun n b => n ≤ (delays text).length ∧
    ∃ v, Plays b v ∧ v.After text false log n) ?_ hrun hposts hd
  rintro n p q env ⟨hle, v, hv, hafter⟩ hq
  obtain ⟨hmem, c, hc, rfl⟩ := Player.step_patternTimer_spec hq
  -- a timer that is delivered was pending, so the end has not been reached
  have hlt : n < (delays text).length := by
    by_contra hge
    have hdue := hv.due.trans (hafter.idle hge).1
    rw [mem_pending_iff, hdue] at hmem
    exact absurd hmem (lt_irrefl 0)
  exact ⟨hlt, _, (Blinky.plays_of_handlePatternEvent hv.deliver hc).2,
    hafter.handlePatternEvent h0 hlt⟩

/-- A POST starts the pattern that is stored, whatever pattern timers are pending. -/
theorem post_plays {env : Env} {path : RegistryPath} {token : Token} {patternStr : List UInt8}
    (hpattern : d.app.registry.pattern = some patternStr) (hmalloc : env.malloc = true)
    (hstep : d.step (.run (.blinkCallback env .execute path token)) = .ok t) :
    Plays t.app.blinky.patternOnly (Playback.ofPattern (patternStr.takeWhile (· != 0)) false
      (d.app.blinky.pendingCount .patternTimer) d.app.blinky.patternOnly.log).runStep.2 := by
  have hinput : d.playerInput (.run (.blinkCallback env .execute path token)) =
      some (.start env (patternStr.takeWhile (· != 0)) false) := by
    simp [playerInput, App.playerInput, hpattern]
  obtain ⟨q, hq, hq'⟩ :=
    (step_isPlayer hstep (p := ⟨d.app.blinky.patternOnly, none⟩) rfl).2 _ hinput
  obtain ⟨success, b, hstart, rfl⟩ := Player.step_start_spec hq
  have hplays := (Blinky.start_spec hmalloc hstart).2
  rw [Blinky.patternOnly_pendingCount] at hplays
  have hblinky : b = t.app.blinky.patternOnly := hq'
  rw [← hblinky]
  exact hplays

/-- A POST that finds no pattern timer pending starts its pattern. -/
theorem post_playsAfter {env : Env} {path : RegistryPath} {token : Token}
    {patternStr : List UInt8} (hpattern : d.app.registry.pattern = some patternStr)
    (hnone : d.app.blinky.pendingCount .patternTimer = 0) (hmalloc : env.malloc = true)
    (hstep : d.step (.run (.blinkCallback env .execute path token)) = .ok t) :
    PlaysAfter (patternStr.takeWhile (· != 0)) d.app.blinky.patternOnly.log 0 t.app.blinky := by
  have hplays := post_plays hpattern hmalloc hstep
  rw [hnone] at hplays
  exact ⟨Nat.zero_le _, _, hplays, Playback.after_start (nul_notMem patternStr) false _⟩

end Device

/-- **A POST plays its pattern in the midst of everything.**  If it finds no pattern timer
pending and `malloc` succeeds, the pattern last written is played as it reads up to its NUL,
whatever happens to the device until the next POST: statuses of the network, sleeping and
waking up, buttons, other timers, and patterns that are written meanwhile. -/
theorem device_plays_delays {defaultInstance : Option NetworkInterface} {is js : List Input}
    {env : Env} {path : RegistryPath} {token : Token} {d t : Device}
    (hd : run Device.step (.boot defaultInstance) is = .ok d)
    (hnone : d.app.blinky.pendingCount .patternTimer = 0) (hmalloc : env.malloc = true)
    (ht : run Device.step d (.run (.blinkCallback env .execute path token) :: js) = .ok t)
    (hposts : ∀ j ∈ js, ¬ j.IsPost) :
    ∃ patternStr, lastPattern is = some patternStr ∧
      PlayedSoFar (patternStr.takeWhile (· != 0)) d.app.blinky.patternOnly.log
        (js.countP (·.isPatternTimer)) t.app.blinky := by
  cases hpost : d.step (.run (.blinkCallback env .execute path token)) with
  | error e => simp [run, hpost] at ht
  | ok u =>
    rw [run_cons_ok hpost] at ht
    obtain ⟨patternStr, success, hpattern, -⟩ := App.handle_post (Device.handle_of_step hpost)
    refine ⟨patternStr, Device.run_pattern hd ▸ hpattern, ?_⟩
    -- the POST starts the playback, and the run after it plays on
    have hstart := Device.post_playsAfter hpattern hnone hmalloc hpost
    have hplays := Device.run_playsAfter (nul_notMem patternStr) ht hposts hstart
    rw [Nat.zero_add] at hplays
    exact hplays.playedSoFar

/-- The pattern `5:7` is started, and `9` is written before its first timer. -/
theorem device_plays_delays_meanwhile :
    ∃ d t, run Device.step (.boot (some ⟨0⟩))
        (Device.startUp ++ [.run (.putPattern [53, 58, 55])]) = .ok d ∧
      run Device.step d (.run (.blinkCallback {} .execute blinkPath ⟨[1]⟩) ::
        [.run (.putPattern [57]), .status .connectionStatusChange .disconnected,
          .run (.taskletEvent {} .patternTimer)]) = .ok t ∧
      ∃ patternStr, lastPattern (Device.startUp ++ [.run (.putPattern [53, 58, 55])]) =
          some patternStr ∧
        PlayedSoFar (patternStr.takeWhile (· != 0)) d.app.blinky.patternOnly.log 1
          t.app.blinky := by
  have hrun : ∃ d t, run Device.step (.boot (some ⟨0⟩))
        (Device.startUp ++ [.run (.putPattern [53, 58, 55])]) = .ok d ∧
      run Device.step d (.run (.blinkCallback {} .execute blinkPath ⟨[1]⟩) ::
        [.run (.putPattern [57]), .status .connectionStatusChange .disconnected,
          .run (.taskletEvent {} .patternTimer)]) = .ok t ∧
      d.app.blinky.pendingCount .patternTimer = 0 := ⟨_, _, rfl, rfl, rfl⟩
  obtain ⟨d, t, hd, ht, hnone⟩ := hrun
  refine ⟨d, t, hd, ht, device_plays_delays hd hnone rfl ht ?_⟩
  simp [Input.IsPost]

end PelionClientLite
