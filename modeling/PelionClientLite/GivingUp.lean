import PelionClientLite.Faults

/-!
# Where the device gives up

The device reboots where the errors have come to a threshold, and where the event system
has no room for the next wake-up.  An assertion fails where a tasklet cannot be created,
and where it has no room for the next delay of a pattern.  There is one count of errors for
two thresholds; it is of the client errors and the failed attempts to connect that have
come since the client last registered, or began to connect.

## Main definitions

* `ErrorInput`, `Device.errorInput` — what a step does to the count of errors.
* `Device.errors` — the errors that count, of a run.
* `GivesUp` — the steps that reboot the device, or fail an assertion.

## Main results

* `App.pdmcEventHandler_eq_error_iff`, `Blinky.start_eq_error_iff` — where handlers give up.
* `Device.run_errors` — the count of errors, after every run.
* `device_gives_up_iff` — **the device reboots, or fails an assertion, exactly where it gives
  up.**
-/

namespace PelionClientLite

open CLib Machine

/-! ### The player -/

namespace Blinky

variable {b b' : Blinky} {env : Env} {e : Stop}

theorem createTasklet_eq_error_iff :
    b.createTasklet env = .error e ↔
      e = .assertionFailed ∧ b.tasklet < 0 ∧ env.handlerCreate < 0 := by
  unfold createTasklet
  split
  · next hnone =>
    split
    · next hcreate => simp [hnone, hcreate, eq_comm]
    · next hcreate => simp [hcreate]
  · next hthere => simp [hthere]

/-- With a tasklet, a timer can be asked for. -/
theorem requestTimedEvent_isOk (hb : ¬ b.tasklet < 0) (env : Env) (type : BlinkyEvent)
    (delay : ℤ) :
    ∃ sent b', b.requestTimedEvent env type delay = .ok (sent, b') ∧ ¬ b'.tasklet < 0 := by
  unfold requestTimedEvent
  rw [if_neg hb]
  split
  · exact ⟨_, _, rfl, hb⟩
  · exact ⟨_, _, rfl, hb⟩

theorem requestNextLoopEvent_isOk (hb : ¬ b.tasklet < 0) (env : Env) :
    ∃ b', b.requestNextLoopEvent env = .ok b' ∧ ¬ b'.tasklet < 0 := by
  obtain ⟨sent, b', hrequest, hb'⟩ := requestTimedEvent_isOk hb env .loopTimer buttonPollIntervalMs
  exact ⟨b', by simp [requestNextLoopEvent, hrequest], hb'⟩

theorem requestAutomaticIncrementEvent_isOk (hb : ¬ b.tasklet < 0) (env : Env) :
    ∃ b', b.requestAutomaticIncrementEvent env = .ok b' ∧ ¬ b'.tasklet < 0 := by
  obtain ⟨sent, b', hrequest, hb'⟩ :=
    requestTimedEvent_isOk hb env .automaticIncrementTimer automaticIncrementIntervalMs
  exact ⟨b', by simp [requestAutomaticIncrementEvent, hrequest], hb'⟩

/-- A step of the pattern fails where there is a delay, and no room for it. -/
theorem runStep_eq_error_iff {v : Playback} (h : Plays b v) :
    b.runStep env = .error e ↔
      e = .assertionFailed ∧ ¬ v.read < 0 ∧ env.sendAfter .patternTimer = false := by
  rcases runStep_spec h env with ⟨hread, hsend, herr⟩ | ⟨hroom, b', hok, -⟩
  · rw [herr, Except.error.injEq]
    have hread' : ¬ v.read < 0 := (Playback.runStep_fst v).mp hread
    simp [hread', hsend, eq_comm]
  · rw [hok, ← Playback.runStep_fst]
    refine iff_of_false (by simp) ?_
    rintro ⟨-, hread, hsend⟩
    exact absurd ((hroom hread).symm.trans hsend) (by decide)

/-- A pattern has a first delay to read if it has any. -/
theorem ofPattern_read {pattern : List UInt8} (h0 : 0 ∉ pattern) (r : Bool) (due : ℕ)
    (log : List BlinkyCall) :
    ¬ (Playback.ofPattern pattern r due log).read < 0 ↔ delays pattern ≠ [] := by
  rw [← Playback.runStep_fst]
  by_cases hdelays : delays pattern = []
  -- without a delay the cursor is behind the last one from the start
  · have hcursor : (Playback.ofPattern pattern r due log).offset =
        cursor (.ofBytes pattern) (delays pattern).length := by
      rw [hdelays]
      rfl
    rw [Playback.runStep_of_length h0 rfl hcursor]
    simp [hdelays]
  · have hlt : 0 < (delays pattern).length := List.length_pos_iff.mpr hdelays
    rw [Playback.runStep_of_lt (v := .ofPattern pattern r due log) h0 rfl rfl hlt]
    simp [hdelays]

/-- A start fails without a tasklet, and where there is no room for the first delay. -/
theorem start_eq_error_iff {pattern : List UInt8} (h0 : 0 ∉ pattern) {r : Bool} :
    b.start env pattern r = .error e ↔
      e = .assertionFailed ∧ ((b.tasklet < 0 ∧ env.handlerCreate < 0) ∨
        (env.malloc = true ∧ delays pattern ≠ [] ∧ env.sendAfter .patternTimer = false)) := by
  cases hcreate : b.createTasklet env with
  | error e' =>
    obtain ⟨rfl, hnone⟩ := createTasklet_eq_error_iff.mp hcreate
    simp only [start, hcreate, error_bind, Except.error.injEq]
    rw [eq_comm]
    simp [hnone]
  | ok b₁ =>
    have hthere : ¬ (b.tasklet < 0 ∧ env.handlerCreate < 0) := by
      intro hnone
      rw [createTasklet_eq_error_iff.mpr ⟨rfl, hnone⟩] at hcreate
      simp at hcreate
    cases hmalloc : env.malloc with
    | false => simp [start, hcreate, hmalloc, hthere]
    | true =>
      obtain ⟨b₂, heq, hplays⟩ := start_eq hcreate hmalloc pattern r
      rw [heq, runStep_eq_error_iff hplays, ofPattern_read h0]
      simp [hthere]

/-- A pattern timer fails where there is no room for the next delay. -/
theorem handlePatternEvent_eq_error_iff {v : Playback} (h : Plays b v) (hr : b.restart = false) :
    b.handlePatternEvent env = .error e ↔
      e = .assertionFailed ∧ ¬ v.read < 0 ∧ env.sendAfter .patternTimer = false := by
  rw [← runStep_eq_error_iff h, handlePatternEvent]
  cases hstep : b.runStep env with
  | error e' => simp
  | ok result =>
    obtain ⟨success, b₁⟩ := result
    obtain ⟨_, _, _, _, rfl, -⟩ := runStep_keeps hstep
    simp [hr]

end Blinky

/-! ### The handlers -/

namespace Client

variable {c : Client} {env : Env} {e : Stop}

/-- The device reboots where there is no room for the next wake-up. -/
theorem requestNextWakeUp_eq_error_iff :
    c.requestNextWakeUp env = .error e ↔
      e = .reboot ∧ c.wakeUpRequested = false ∧ env.sendWakeUp = false := by
  unfold requestNextWakeUp
  split
  · next hrequested => simp [hrequested]
  · next hrequested =>
    dsimp only
    split
    · next hroom => simp [hroom]
    · next hroom => simp [hrequested, hroom, eq_comm]

end Client

namespace App

variable {a b : App} {env : Env} {e : Stop}

/-- A registration fails without a tasklet, and reboots the device where there is no room
for the first wake-up. -/
theorem pdmcClientRegistered_eq_error_iff :
    a.pdmcClientRegistered env = .error e ↔
      (e = .assertionFailed ∧ a.blinky.tasklet < 0 ∧ env.handlerCreate < 0) ∨
        (e = .reboot ∧ ¬ (a.blinky.tasklet < 0 ∧ env.handlerCreate < 0) ∧
          a.client.wakeUpRequested = false ∧ env.sendWakeUp = false) := by
  cases hcreate : a.blinky.createTasklet env with
  | error e' =>
    obtain ⟨rfl, hnone⟩ := Blinky.createTasklet_eq_error_iff.mp hcreate
    simp only [pdmcClientRegistered, Blinky.startLoop, hcreate, error_bind, Except.error.injEq]
    rw [eq_comm]
    simp [hnone]
  | ok b₁ =>
    have hthere : ¬ (a.blinky.tasklet < 0 ∧ env.handlerCreate < 0) := by
      intro hnone
      rw [Blinky.createTasklet_eq_error_iff.mpr ⟨rfl, hnone⟩] at hcreate
      simp at hcreate
    obtain ⟨b₂, hloop, hb₂⟩ :=
      Blinky.requestNextLoopEvent_isOk (Blinky.createTasklet_ok hcreate).1 env
    obtain ⟨b₃, hincrement, -⟩ := Blinky.requestAutomaticIncrementEvent_isOk hb₂ env
    -- with the tasklet there, the answers to both periodic timers are ignored
    simp only [pdmcClientRegistered, Blinky.startLoop, hcreate, hloop, hincrement, ok_bind]
    rw [bind_pure_eq_error, Client.requestNextWakeUp_eq_error_iff]
    simp [hthere]

/-- A client event gives up as a registration, or as the last error that is borne. -/
theorem pdmcEventHandler_eq_error_iff {event : ClientEvent} :
    a.pdmcEventHandler env event = .error e ↔
      (event.isRegistered = true ∧ a.pdmcClientRegistered env = .error e) ∨
        (event.countsError = true ∧ e = .reboot ∧
          a.client.pdmcClientErrorCount + 1 = maxPdmcClientErrorCount) := by
  obtain ⟨type, id⟩ := event
  cases type with
  | startup => simp [pdmcEventHandler, ClientEvent.isRegistered, ClientEvent.countsError]
  | code errorCode =>
    cases id with
    | objectRegistered => simp [pdmcEventHandler, ClientEvent.isRegistered, ClientEvent.countsError]
    | error =>
      simp only [pdmcEventHandler, ClientEvent.isRegistered, ClientEvent.countsError]
      rw [bind_pure_eq_error, Client.pdmcClientErrorEvent]
      split
      · next hcounted =>
        rw [Client.rebootIfThresholdValue_eq]
        split
        · next hcount => simp [hcounted, hcount, eq_comm]
        · next hcount => simp [hcount]
      · next hcounted => simp [hcounted]
    | _ => simp [pdmcEventHandler, ClientEvent.isRegistered, ClientEvent.countsError]

/-- The periodic timers of the tasklet come back. -/
theorem blinkyEventHandlerWrapper_isOk_of_static (env : Env) {type : BlinkyEvent}
    (htype : type ≠ .patternTimer) (hstatic : a.blinky.staticBlinky = true)
    (htasklet : ¬ a.blinky.tasklet < 0) :
    ∃ b, a.blinkyEventHandlerWrapper env type = .ok b := by
  obtain ⟨b₁, hloop, -⟩ := Blinky.requestNextLoopEvent_isOk htasklet env
  obtain ⟨b₂, hincrement, -⟩ := Blinky.requestAutomaticIncrementEvent_isOk htasklet env
  cases type with
  | patternTimer => exact absurd rfl htype
  | loopInit => simp [blinkyEventHandlerWrapper, hstatic, hloop]
  | patternInit => exact ⟨a, rfl⟩
  | loopTimer =>
    simp only [blinkyEventHandlerWrapper, handleButtons, hloop, ok_bind]
    split <;> exact ⟨_, rfl⟩
  | automaticIncrementTimer =>
    simp only [blinkyEventHandlerWrapper, handleAutomaticIncrement, hincrement, ok_bind]
    split <;> exact ⟨_, rfl⟩

end App

/-! ### The count of errors -/

/-- What a step does to the count of errors. -/
inductive ErrorInput where
  /-- A client error, or an attempt to connect that has failed. -/
  | counted
  /-- The client registers, or updates its registration, or begins to connect. -/
  | reset
  deriving DecidableEq, Repr

/-- The errors counted since the count was last set back. -/
def ErrorInput.count (js : List ErrorInput) : ℕ :=
  (History.since (· = .reset) js).countP (· = .counted)

/-- What a step of the device does to the count of errors. -/
def Device.errorInput (d : Device) : Input → Option ErrorInput
  | .run (.clientEvent _ e) =>
      if e.resetsErrors then some .reset else if e.countsError then some .counted else none
  | .wakeUp _ .wake => if d.app.client.paused then some .reset else none
  | .driver .proceed =>
      match d.stack with
      | .backOff _ _ :: _ => some .counted
      | _ => none
  | _ => none

/-- The errors that count after a run. -/
def Device.errors (defaultInstance : Option NetworkInterface) (is : List Input) : ℕ :=
  ErrorInput.count (seen Device.step Device.errorInput (.boot defaultInstance) is)

namespace ErrorInput

theorem count_concat (js : List ErrorInput) (j : ErrorInput) :
    count (js ++ [j]) = if j = .reset then 0 else count js + 1 := by
  rw [count, History.countP_since_concat, count]
  cases j <;> rfl

end ErrorInput

namespace Device

variable {d t : Device} {i : Input}

/-- What each step does to the count of errors. -/
theorem step_errorCount (h : d.step i = .ok t) :
    t.app.client.pdmcClientErrorCount =
      match d.errorInput i with
      | some .reset => 0
      | some .counted => d.app.client.pdmcClientErrorCount + 1
      | none => d.app.client.pdmcClientErrorCount := by
  cases steps_of_step h with
  -- of the handlers, that of client events alone counts
  | @run h _ _ hhandles =>
    cases hhandles with
    | @clientEvent env e _ _ hevent =>
      rw [App.pdmcEventHandler_errorCount hevent]
      cases hresets : e.resetsErrors with
      | true => simp [errorInput, hresets]
      | false => cases hcounts : e.countsError <;> simp [errorInput, hresets, hcounts]
    | taskletEvent _ _ hclicked =>
      obtain ⟨_, _, _, _, rfl, -⟩ := hclicked
      rfl
    | _ => rfl
  | wakeUpAwake _ _ hwake hawake =>
    obtain ⟨_, _, _, rfl⟩ := App.wakeUp_keeps hwake
    -- a client that is awake does not begin to connect
    have hawake' : d.app.client.paused = false := hawake
    simp [errorInput, hawake']
  | wakeUpPaused _ _ hwake hpaused =>
    obtain ⟨_, _, _, rfl⟩ := App.wakeUp_keeps hwake
    have hpaused' : d.app.client.paused = true := hpaused
    simp only [errorInput, hpaused', if_true]
    rfl
  | @connects _ _ _ _ r _ hstack =>
    cases r <;> simp [errorInput, hstack, settle]
  | retries hstack hretry =>
    obtain ⟨-, -, rfl⟩ := App.retryInitConnection_eq_ok hretry
    simp only [errorInput, hstack]
    rfl
  | resumes hstack =>
    simp only [errorInput, hstack]
    rfl
  | @initPdmcClient env =>
    obtain ⟨_, _, hspec⟩ := App.initPdmcClient_spec env d.app
    rw [hspec]
    rfl
  | _ => rfl

/-- **The count of errors is of what has come since it was last set back.** -/
theorem run_errors {defaultInstance : Option NetworkInterface} {is : List Input}
    (hrun : run step (boot defaultInstance) is = .ok t) :
    t.app.client.pdmcClientErrorCount = errors defaultInstance is := by
  refine run_induction (P := fun is (t : Device) =>
    t.app.client.pdmcClientErrorCount = errors defaultInstance is) rfl ?_ hrun
  intro is d i t hd hcount hstep
  rw [step_errorCount hstep, errors, seen_concat hd hstep, hcount]
  cases d.errorInput i with
  | none => simp [errors]
  | some j =>
    rw [Option.toList_some, ErrorInput.count_concat]
    -- the count goes up by one, or back to zero
    cases j <;> rfl

end Device

/-! ### A pattern that is played once -/

/-- What is started plays as often as it was told to. -/
theorem Blinky.start_restart {b b' : Blinky} {env : Env} {pattern : List UInt8} {r success : Bool}
    (h : b.start env pattern r = .ok (success, b')) : b'.restart = r := by
  obtain ⟨b₁, -, h⟩ := bind_eq_ok.mp h
  dsimp only at h
  split at h
  · obtain ⟨_, _, _, _, rfl, -⟩ := runStep_keeps h
    rfl
  · rw [pure_eq_ok, Except.ok.injEq, Prod.mk.injEq] at h
    rw [← h.2]
    rfl

namespace Device

variable {d t : Device} {i : Input}

/-- Every pattern is played once. -/
theorem step_restart (h : d.step i = .ok t) (hd : d.app.blinky.restart = false) :
    t.app.blinky.restart = false := by
  obtain ⟨hnone, hsome⟩ := step_isPlayer h (p := ⟨d.app.blinky.patternOnly, none⟩) rfl
  cases hinput : d.playerInput i with
  | none =>
    have hsame : d.app.blinky.patternOnly = t.app.blinky.patternOnly := hnone hinput
    exact (congrArg Blinky.restart hsame).symm.trans hd
  | some j =>
    obtain ⟨q, hq, hplayer⟩ := hsome j hinput
    have hsame : q.blinky = t.app.blinky.patternOnly := hplayer
    show t.app.blinky.patternOnly.restart = false
    rw [← hsame]
    unfold playerInput App.playerInput at hinput
    split at hinput
    · split at hinput
      · obtain ⟨patternStr, -, rfl⟩ := Option.map_eq_some_iff.mp hinput
        obtain ⟨success, b, hstart, rfl⟩ := Player.step_start_spec hq
        exact Blinky.start_restart hstart
      · rw [Option.some.injEq] at hinput
        subst hinput
        obtain ⟨-, b, hb, rfl⟩ := Player.step_patternTimer_spec hq
        obtain ⟨_, _, _, _, rfl, -⟩ := Blinky.handlePatternEvent_keeps hb
        exact hd
      · simp at hinput
    · simp at hinput

theorem run_restart {defaultInstance : Option NetworkInterface} {is : List Input}
    (hrun : run step (boot defaultInstance) is = .ok t) : t.app.blinky.restart = false :=
  run_invariant (fun _ _ _ h hd => step_restart h hd) hrun rfl

end Device

/-- A pattern timer finds a pattern to play, or none. -/
theorem HoldsPlayback.plays_or_null {last : Option Posted} {b : Blinky}
    (h : HoldsPlayback last b.patternOnly) (htasklet : ¬ b.tasklet < 0) :
    (∃ v, Plays b v) ∨ b.currPattern = none := by
  cases last with
  | none => exact Or.inr h.2.1
  | some p =>
    dsimp only [HoldsPlayback] at h
    split at h
    · obtain ⟨v, hv, -⟩ := h
      exact Or.inl ⟨_, Blinky.plays_of_patternOnly hv htasklet⟩
    · exact Or.inr h.2

/-- What a player reads next is in its buffer. -/
theorem Plays.read_eq {b : Blinky} {v w : Playback} (hv : Plays b v) (hw : Plays b w) :
    v.read = w.read := by
  obtain ⟨a, hpattern, hblock, hcurr⟩ := hv.buffer
  obtain ⟨a', hpattern', hblock', hcurr'⟩ := hw.buffer
  rw [hpattern, Option.some.injEq] at hpattern'
  subst hpattern'
  rw [hblock, Option.some.injEq] at hblock'
  rw [hcurr, Option.some.injEq, Ptr.mk.injEq] at hcurr'
  rw [Playback.read, Playback.read, hblock', hcurr'.2]

/-! ### Where the device gives up -/

/-- The steps that reboot the device, or fail an assertion, where `n` errors have been
counted. -/
inductive GivesUp (n : ℕ) (d : Device) : Input → Stop → Prop where
  /-- The last error that is borne comes. -/
  | error {env : Env} {e : ClientEvent} (hdispatch : d.dispatches = true)
      (hinit : d.app.client.initialised = true) (hcounts : e.countsError = true)
      (hcount : n + 1 = maxPdmcClientErrorCount) : GivesUp n d (.run (.clientEvent env e)) .reboot
  /-- So does the last attempt to connect. -/
  | attempt {caller : Caller} {timeoutMs : ℤ} {stack : List Frame}
      (hstack : d.stack = .backOff caller timeoutMs :: stack)
      (hcount : n + 1 = maxPdmcClientInitConnectionErrorCount) :
      GivesUp n d (.driver .proceed) .reboot
  /-- The client registers, and there is no room for the first wake-up. -/
  | registered {env : Env} {e : ClientEvent} (hdispatch : d.dispatches = true)
      (hinit : d.app.client.initialised = true) (hregistered : e.isRegistered = true)
      (htasklet : ¬ (d.app.blinky.tasklet < 0 ∧ env.handlerCreate < 0))
      (hrequested : d.app.client.wakeUpRequested = false) (hroom : env.sendWakeUp = false) :
      GivesUp n d (.run (.clientEvent env e)) .reboot
  /-- There is no room for the next one. -/
  | wakeUp {env : Env} (hdispatch : d.dispatches = true)
      (hpending : .wake ∈ d.app.client.wakePending) (hroom : env.sendWakeUp = false) :
      GivesUp n d (.wakeUp env .wake) .reboot
  /-- The client registers, and the tasklet cannot be created. -/
  | registeredTasklet {env : Env} {e : ClientEvent} (hdispatch : d.dispatches = true)
      (hinit : d.app.client.initialised = true) (hregistered : e.isRegistered = true)
      (hnone : d.app.blinky.tasklet < 0) (hcreate : env.handlerCreate < 0) :
      GivesUp n d (.run (.clientEvent env e)) .assertionFailed
  /-- A POST comes, and the tasklet cannot be created. -/
  | postTasklet {env : Env} {path : RegistryPath} {token : Token}
      (hdispatch : d.dispatches = true) (hblink : d.app.registry.blink = true)
      (hread : env.registryGetValueString = true)
      (hnone : d.app.blinky.tasklet < 0) (hcreate : env.handlerCreate < 0) :
      GivesUp n d (.run (.blinkCallback env .execute path token)) .assertionFailed
  /-- A POST comes, and there is no room for the first delay of the pattern. -/
  | post {env : Env} {path : RegistryPath} {token : Token} {patternStr : List UInt8}
      (hdispatch : d.dispatches = true) (hblink : d.app.registry.blink = true)
      (hread : env.registryGetValueString = true)
      (hpattern : d.app.registry.pattern = some patternStr) (hmalloc : env.malloc = true)
      (hdelays : delays (patternStr.takeWhile (· != 0)) ≠ [])
      (hroom : env.sendAfter .patternTimer = false) :
      GivesUp n d (.run (.blinkCallback env .execute path token)) .assertionFailed
  /-- A pattern timer comes, and there is no room for the next delay. -/
  | patternTimer {env : Env} {v : Playback} (hdispatch : d.dispatches = true)
      (hpending : .patternTimer ∈ d.app.blinky.pending) (hplays : Plays d.app.blinky v)
      (hnext : ¬ v.read < 0) (hroom : env.sendAfter .patternTimer = false) :
      GivesUp n d (.run (.taskletEvent env .patternTimer)) .assertionFailed

/-- The device gives up by a reboot or an assertion. -/
theorem GivesUp.stop {n : ℕ} {d : Device} {i : Input} {e : Stop} (h : GivesUp n d i e) :
    e = .reboot ∨ e = .assertionFailed := by
  cases h <;> simp

namespace Device

variable {d t : Device} {i : Input} {n : ℕ} {e : Stop}

/-- Where the handler of a client event gives up. -/
theorem clientEvent_gives_up_iff {env : Env} {event : ClientEvent}
    (hdispatch : d.dispatches = true) (hcount : d.app.client.pdmcClientErrorCount = n)
    (he : e = .reboot ∨ e = .assertionFailed) :
    d.app.handle (.clientEvent env event) = .error e ↔
      GivesUp n d (.run (.clientEvent env event)) e := by
  have hrefused : Stop.refused ≠ e := by rcases he with rfl | rfl <;> decide
  simp only [App.handle]
  split
  · next hinit =>
    rw [App.pdmcEventHandler_eq_error_iff, App.pdmcClientRegistered_eq_error_iff, hcount]
    constructor
    · rintro (⟨hregistered, ⟨rfl, hnone, hcreate⟩ | ⟨rfl, htasklet, hrequested, hroom⟩⟩ |
        ⟨hcounts, rfl, hlast⟩)
      · exact .registeredTasklet hdispatch hinit hregistered hnone hcreate
      · exact .registered hdispatch hinit hregistered htasklet hrequested hroom
      · exact .error hdispatch hinit hcounts hlast
    · intro hgives
      cases hgives with
      | error _ _ hcounts hlast => exact Or.inr ⟨hcounts, rfl, hlast⟩
      | registered _ _ hregistered htasklet hrequested hroom =>
        exact Or.inl ⟨hregistered, Or.inr ⟨rfl, htasklet, hrequested, hroom⟩⟩
      | registeredTasklet _ _ hregistered hnone hcreate =>
        exact Or.inl ⟨hregistered, Or.inl ⟨rfl, hnone, hcreate⟩⟩
  · -- a client that has not started reports nothing
    refine iff_of_false (by simpa using hrefused) ?_
    intro hgives
    cases hgives <;> contradiction

/-- Where a pattern timer gives up. -/
theorem patternTimer_gives_up_iff {env : Env} (hdispatch : d.dispatches = true)
    (hpending : .patternTimer ∈ d.app.blinky.pending) (hready : d.app.Ready)
    {last : Option Posted} (hheld : HoldsPlayback last d.app.blinky.patternOnly)
    (hrestart : d.app.blinky.restart = false) (he : e = .reboot ∨ e = .assertionFailed) :
    d.app.handle (.taskletEvent env .patternTimer) = .error e ↔
      GivesUp n d (.run (.taskletEvent env .patternTimer)) e := by
  have hnull : Stop.nullDereference ≠ e := by rcases he with rfl | rfl <;> decide
  have htasklet := hready.served.tasklet (List.ne_nil_of_mem hpending)
  rcases hheld.plays_or_null htasklet with ⟨v, hplays⟩ | hcursor
  · simp only [App.handle, hpending, if_true, App.blinkyEventHandlerWrapper]
    rw [bind_pure_eq_error, Blinky.handlePatternEvent_eq_error_iff hplays.deliver hrestart]
    constructor
    · rintro ⟨rfl, hnext, hroom⟩
      exact .patternTimer hdispatch hpending hplays hnext hroom
    · intro hgives
      cases hgives with
      | patternTimer _ _ hplays' hnext hroom =>
        exact ⟨rfl, hplays.read_eq hplays' ▸ hnext, hroom⟩
  · -- without a pattern it does worse
    rw [App.handle_patternTimer_of_null hpending hcursor, Except.error.injEq]
    refine iff_of_false hnull ?_
    intro hgives
    cases hgives with
    | patternTimer _ _ hplays =>
      obtain ⟨a, -, -, hcurr⟩ := hplays.buffer
      rw [hcursor] at hcurr
      simp at hcurr

/-- Where an event of the tasklet gives up. -/
theorem taskletEvent_gives_up_iff {env : Env} {type : BlinkyEvent}
    (hdispatch : d.dispatches = true) (hready : d.app.Ready) {last : Option Posted}
    (hheld : HoldsPlayback last d.app.blinky.patternOnly) (hrestart : d.app.blinky.restart = false)
    (he : e = .reboot ∨ e = .assertionFailed) :
    d.app.handle (.taskletEvent env type) = .error e ↔
      GivesUp n d (.run (.taskletEvent env type)) e := by
  have hrefused : Stop.refused ≠ e := by rcases he with rfl | rfl <;> decide
  by_cases hpending : type ∈ d.app.blinky.pending
  · by_cases htype : type = .patternTimer
    · subst htype
      exact patternTimer_gives_up_iff hdispatch hpending hready hheld hrestart he
    · -- the periodic timers are asked for without an assertion on the answer
      have htasklet := hready.served.tasklet (List.ne_nil_of_mem hpending)
      obtain ⟨b, hb⟩ := App.blinkyEventHandlerWrapper_isOk_of_static env
        (a := { d.app with blinky :=
          { d.app.blinky with pending := d.app.blinky.pending.erase type } })
        htype (hready.served.static htasklet) htasklet
      simp only [App.handle, hpending, if_true, hb]
      refine iff_of_false (by simp) ?_
      intro hgives
      cases hgives
      exact htype rfl
  · simp only [App.handle, hpending, if_false]
    refine iff_of_false (by simpa using hrefused) ?_
    intro hgives
    cases hgives
    contradiction

/-- Where a POST gives up. -/
theorem blinkCallback_gives_up_iff {env : Env} {type : CallbackType} {path : RegistryPath}
    {token : Token} (hdispatch : d.dispatches = true) (hready : d.app.Ready)
    (he : e = .reboot ∨ e = .assertionFailed) :
    d.app.handle (.blinkCallback env type path token) = .error e ↔
      GivesUp n d (.run (.blinkCallback env type path token)) e := by
  have hrefused : Stop.refused ≠ e := by rcases he with rfl | rfl <;> decide
  simp only [App.handle]
  split
  · next hblink =>
    cases type with
    | execute =>
      cases hread : env.registryGetValueString with
      | false =>
        -- the pointer that was never set is read through first
        rw [App.blinkCallback_of_not_read hread]
        refine iff_of_false (by rcases he with rfl | rfl <;> simp) ?_
        intro hgives
        have hyes : env.registryGetValueString = true := by cases hgives <;> assumption
        exact absurd (hread.symm.trans hyes) (by decide)
      | true =>
        obtain ⟨patternStr, hpattern⟩ := Option.isSome_iff_exists.mp (hready.pattern hblink)
        simp only [App.blinkCallback, App.patternStr_eq_some.mpr ⟨hread, hpattern⟩]
        rw [bind_pure_eq_error, Blinky.start_eq_error_iff (nul_notMem patternStr)]
        constructor
        · rintro ⟨rfl, ⟨hnone, hcreate⟩ | ⟨hmalloc, hdelays, hroom⟩⟩
          · exact .postTasklet hdispatch hblink hread hnone hcreate
          · exact .post hdispatch hblink hread hpattern hmalloc hdelays hroom
        · intro hgives
          cases hgives with
          | postTasklet _ _ _ hnone hcreate => exact ⟨rfl, Or.inl ⟨hnone, hcreate⟩⟩
          | post _ _ _ hpattern' hmalloc hdelays hroom =>
            rw [hpattern, Option.some.injEq] at hpattern'
            subst hpattern'
            exact ⟨rfl, Or.inr ⟨hmalloc, hdelays, hroom⟩⟩
    | _ => exact iff_of_false (by simp [App.blinkCallback]) (by rintro ⟨⟩)
  · refine iff_of_false (by simpa using hrefused) ?_
    intro hgives
    cases hgives <;> contradiction

/-- Where a handler gives up. -/
theorem run_gives_up_iff {h : Handler} (hready : d.app.Ready) {last : Option Posted}
    (hheld : HoldsPlayback last d.app.blinky.patternOnly) (hrestart : d.app.blinky.restart = false)
    (hcount : d.app.client.pdmcClientErrorCount = n) (he : e = .reboot ∨ e = .assertionFailed) :
    d.step (.run h) = .error e ↔ GivesUp n d (.run h) e := by
  have hrefused : Stop.refused ≠ e := by rcases he with rfl | rfl <;> decide
  cases hdispatch : d.dispatches with
  | false =>
    refine iff_of_false (by simp [step, hdispatch, hrefused]) ?_
    intro hgives
    have hyes : d.dispatches = true := by cases hgives <;> assumption
    exact absurd (hdispatch.symm.trans hyes) (by decide)
  | true =>
    simp only [step, hdispatch, if_true]
    rw [bind_pure_eq_error]
    cases h with
    | clientEvent env event => exact clientEvent_gives_up_iff hdispatch hcount he
    | taskletEvent env type =>
      exact taskletEvent_gives_up_iff hdispatch hready hheld hrestart he
    | blinkCallback env type path token => exact blinkCallback_gives_up_iff hdispatch hready he
    | _ =>
      refine iff_of_false ?_ (by rintro ⟨⟩)
      simp only [App.handle]
      split <;> simp [hrefused]

/-- Where the function on top of the stack gives up. -/
theorem goOn_gives_up_iff {r : DriverInput} (hcount : d.app.client.pdmcClientErrorCount = n)
    (he : e = .reboot ∨ e = .assertionFailed) :
    d.step (.driver r) = .error e ↔ GivesUp n d (.driver r) e := by
  have hrefused : Stop.refused ≠ e := by rcases he with rfl | rfl <;> decide
  have hnull : e ≠ Stop.nullDereference := by rcases he with rfl | rfl <;> decide
  constructor
  · intro hstep
    simp only [step, goOn] at hstep
    split at hstep
    · have hconn := bind_pure_eq_error.mp hstep
      exact absurd ((Net.connStep_error_iff hrefused.symm).mp hconn).2.2 hnull
    · next hstack =>
      have hretry := bind_pure_eq_error.mp (bind_pure_eq_error.mp hstep)
      rw [Client.rebootIfThresholdValue_eq, hcount] at hretry
      split at hretry
      · next hlast =>
        rw [Except.error.injEq] at hretry
        exact hretry ▸ .attempt hstack hlast
      · simp at hretry
    · simp at hstep
    · simp at hstep
    · split at hstep <;> rw [Except.error.injEq] at hstep
      · rw [← hstep] at he
        simp at he
      · exact absurd hstep hrefused
    · rw [Except.error.injEq] at hstep
      exact absurd hstep hrefused
  · intro hgives
    cases hgives with
    | attempt hstack hlast =>
      rw [← hcount] at hlast
      have hretry := fun timeoutMs => (App.retryInitConnection_eq_reboot_iff timeoutMs).mpr hlast
      simp only [step, goOn, hstack, hretry, error_bind]

/-- Where a wake-up gives up. -/
theorem wakeUp_gives_up_iff {env : Env} {type : WakeUpEvent}
    (he : e = .reboot ∨ e = .assertionFailed) :
    d.step (.wakeUp env type) = .error e ↔ GivesUp n d (.wakeUp env type) e := by
  have hrefused : Stop.refused ≠ e := by rcases he with rfl | rfl <;> decide
  simp only [step, wakeUp]
  split
  · next hdispatch =>
    split
    · next hpending =>
      cases type with
      | init => exact iff_of_false (by simp) (by rintro ⟨⟩)
      | wake =>
        -- the timer is asked for before the client resumes, which comes back
        dsimp only
        have hresume : ∀ a : App, (if a.client.paused then pure (attempt .pdmcClientResume 5000
            a.enterResume d.stack) else pure { d with app := a } : Except Stop Device) ≠
            .error e := by
          intro a
          split <;> simp
        rw [bind_eq_error]
        simp only [hresume, and_false, exists_false, or_false]
        rw [App.wakeUp, bind_pure_eq_error, Client.requestNextWakeUp_eq_error_iff]
        constructor
        · rintro ⟨rfl, -, hroom⟩
          exact .wakeUp hdispatch hpending hroom
        · intro hgives
          cases hgives with
          | wakeUp _ _ hroom => exact ⟨rfl, rfl, hroom⟩
    · next hpending =>
      refine iff_of_false (by simpa using hrefused) ?_
      intro hgives
      cases hgives
      contradiction
  · next hdispatch =>
    refine iff_of_false (by simpa using hrefused) ?_
    intro hgives
    cases hgives
    contradiction

/-- **Where a step gives up.** -/
theorem step_gives_up_iff (hready : d.app.Ready) {last : Option Posted}
    (hheld : HoldsPlayback last d.app.blinky.patternOnly) (hrestart : d.app.blinky.restart = false)
    (hcount : d.app.client.pdmcClientErrorCount = n) (he : e = .reboot ∨ e = .assertionFailed) :
    d.step i = .error e ↔ GivesUp n d i e := by
  have hrefused : Stop.refused ≠ e := by rcases he with rfl | rfl <;> decide
  cases i with
  | run h => exact run_gives_up_iff hready hheld hrestart hcount he
  | driver r => exact goOn_gives_up_iff hcount he
  | wakeUp env type => exact wakeUp_gives_up_iff he
  | press buttons => exact iff_of_false (by simp [step]) (by rintro ⟨⟩)
  | _ =>
    refine iff_of_false ?_ (by rintro ⟨⟩)
    simp only [step]
    split <;> simp [hrefused]

end Device

/-- **The device reboots, or fails an assertion, exactly where it gives up**; and the errors
that count towards a reboot are those since the client last registered, or began to connect. -/
theorem device_gives_up_iff (defaultInstance : Option NetworkInterface) (is : List Input) :
    EachStep Device.step (.boot defaultInstance) is fun pre d i =>
      (d.step i = .error .reboot ↔
        GivesUp (Device.errors defaultInstance pre) d i .reboot) ∧
      (d.step i = .error .assertionFailed ↔
        GivesUp (Device.errors defaultInstance pre) d i .assertionFailed) := by
  intro pre i d _ hd
  have hready : d.app.Ready := (Device.run_ready hd).1
  have hheld := (Device.run_holdsPlayback hd).2
  have hrestart := Device.run_restart hd
  have hcount := Device.run_errors hd
  constructor
  · exact Device.step_gives_up_iff hready hheld hrestart hcount (Or.inl rfl)
  · exact Device.step_gives_up_iff hready hheld hrestart hcount (Or.inr rfl)

/-- Four attempts to connect have failed; the first client error is the last that is borne. -/
example : ∃ d, run Device.step (.boot (some ⟨0⟩))
    ((List.replicate 4 [.driver (.setBlockingReturns .ok),
      .driver (.connectReturns (.other (-3004))), .driver .proceed]).flatten ++
      Device.startUp) = .ok d ∧
    d.step (.run (.clientEvent {} ⟨.code .timeout, .error⟩)) = .error .reboot :=
  ⟨_, rfl, rfl⟩

end PelionClientLite
