import PelionClientLite.Client

/-!
# What the handlers do

The handlers that run to their end without waiting for the network, and for each
of them a description of what it leaves behind.

## Main definitions

* `Handler`, `App.handle` — the handlers that do not wait.
* `ClientEvent.isRegistered` and its companions — the kinds of client event.
* `Blinky.onEvent` — what an event of the tasklet does to the player.
* `App.Handles` — the descriptions, one for each way a handler may end.

## Main results

* `Client.requestNextWakeUp_spec`, `Client.requestNextWakeUp_keeps` — arming the
  wake-up timer.
* `App.pdmcEventHandler_spec`, `App.blinkyEventHandlerWrapper_spec`,
  `App.blinkCallback_spec`, `App.unregisterCallback_spec` — the handlers.
* `App.initPdmcClient_spec` — starting the client.
* `App.handles_of_handle` — **what any handler leaves behind.**
-/

namespace PelionClientLite

open Machine

/-! ### What runs on the event queue -/

/-- A handler that runs to its end without waiting for the network. -/
inductive Handler where
  /-- A client event. -/
  | clientEvent (env : Env) (event : ClientEvent)
  /-- An event of the tasklet of `blinky.cpp`. -/
  | taskletEvent (env : Env) (type : BlinkyEvent)
  /-- The callback of the blink resource, with the path of the resource. -/
  | blinkCallback (env : Env) (type : CallbackType) (path : RegistryPath) (token : Token)
  /-- A timeout registered by `blink_callback` fires. -/
  | sendApplicationResponse
  /-- The callback of the unregister resource. -/
  | unregisterCallback (path : RegistryPath) (token : Token) (status : NotificationStatus)
  /-- The server writes the pattern. -/
  | putPattern (pattern : List UInt8)
  /-- The server writes the counter. -/
  | putCounter (value : ℤ)

namespace App

/-- A handler runs, if what it handles can have come. -/
def handle (a : App) : Handler → Except Stop App
  | .clientEvent env event =>
      if a.client.initialised then a.pdmcEventHandler env event else .error .refused
  | .taskletEvent env type =>
      if type ∈ a.blinky.pending then
        { a with blinky := { a.blinky with pending := a.blinky.pending.erase type }
          }.blinkyEventHandlerWrapper env type
      else .error .refused
  | .blinkCallback env type path token =>
      if a.registry.blink then a.blinkCallback env type path token else .error .refused
  | .sendApplicationResponse =>
      if a.responsesDue = 0 then .error .refused
      else .ok { a with responsesDue := a.responsesDue - 1 }.sendApplicationResponse
  | .unregisterCallback path token status =>
      if a.registry.unregister then .ok (a.unregisterCallback path token status)
      else .error .refused
  | .putPattern pattern =>
      if a.registry.pattern.isSome then
        .ok { a with registry := { a.registry with pattern := some pattern } }
      else .error .refused
  | .putCounter value =>
      if a.registry.counter.isSome then
        .ok { a with registry := { a.registry with counter := some value } }
      else .error .refused

end App

/-! ### Kinds of client event -/

namespace ClientEvent

/-- OBJECT_REGISTERED. -/
def isRegistered : ClientEvent → Bool
  | ⟨.code _, .objectRegistered⟩ => true
  | _ => false

/-- OBJECT_UNREGISTERED. -/
def isUnregistered : ClientEvent → Bool
  | ⟨.code _, .objectUnregistered⟩ => true
  | _ => false

/-- SETUP_COMPLETED. -/
def isSetupCompleted : ClientEvent → Bool
  | ⟨.code _, .setupCompleted⟩ => true
  | _ => false

/-- OBJECT_REGISTERED or REGISTRATION_UPDATED: the error count is set back. -/
def resetsErrors : ClientEvent → Bool
  | ⟨.code _, .objectRegistered⟩ => true
  | ⟨.code _, .registrationUpdated⟩ => true
  | _ => false

/-- An error that is counted. -/
def countsError : ClientEvent → Bool
  | ⟨.code errorCode, .error⟩ => Client.isCountedError errorCode
  | _ => false

theorem resetsErrors_of_isRegistered {e : ClientEvent} (h : e.isRegistered = true) :
    e.resetsErrors = true := by
  obtain ⟨type, id⟩ := e
  cases type with
  | startup => simp [isRegistered] at h
  | code errorCode => cases id <;> first | rfl | simp [isRegistered] at h

theorem isUnregistered_of_isRegistered {e : ClientEvent} (h : e.isRegistered = true) :
    e.isUnregistered = false := by
  obtain ⟨type, id⟩ := e
  cases type with
  | startup => rfl
  | code errorCode => cases id <;> first | rfl | simp [isRegistered] at h

theorem isSetupCompleted_of_isRegistered {e : ClientEvent} (h : e.isRegistered = true) :
    e.isSetupCompleted = false := by
  obtain ⟨type, id⟩ := e
  cases type with
  | startup => rfl
  | code errorCode => cases id <;> first | rfl | simp [isRegistered] at h

end ClientEvent

/-! ### The client -/

namespace Client

variable {c c' : Client} {threshold : ℕ}

theorem rebootIfThresholdValue_eq :
    c.rebootIfThresholdValue threshold =
      if c.pdmcClientErrorCount + 1 = threshold then .error .reboot
      else .ok { c with pdmcClientErrorCount := c.pdmcClientErrorCount + 1 } := rfl

/-- `reboot_if_threshold_value` reboots when the count reaches the threshold, and
only then. -/
theorem rebootIfThresholdValue_eq_reboot_iff :
    c.rebootIfThresholdValue threshold = .error .reboot ↔
      c.pdmcClientErrorCount + 1 = threshold := by
  rw [rebootIfThresholdValue_eq]
  split
  · next h => exact iff_of_true rfl h
  · next h => exact iff_of_false (by simp) h

theorem rebootIfThresholdValue_eq_ok (h : c.rebootIfThresholdValue threshold = .ok c') :
    c.pdmcClientErrorCount + 1 ≠ threshold ∧
      c' = { c with pdmcClientErrorCount := c.pdmcClientErrorCount + 1 } := by
  rw [rebootIfThresholdValue_eq] at h
  split at h
  · simp at h
  · next hne =>
    rw [Except.ok.injEq] at h
    exact ⟨hne, h.symm⟩

/-- Arming the wake-up timer: it is armed already, or one wake-up event is taken, after
the event that creating the handler may have queued. -/
theorem requestNextWakeUp_spec {env : Env} (h : c.requestNextWakeUp env = .ok c') :
    (c.wakeUpRequested = true ∧ c' = c) ∨
      (c.wakeUpRequested = false ∧ ∃ handler pending,
        (pending = c.wakePending ∨ pending = .init :: c.wakePending) ∧
        c' = { c with wakeUpHandler := handler, wakePending := .wake :: pending,
                      wakeUpRequested := true }) := by
  unfold requestNextWakeUp at h
  split at h
  · next hreq =>
    rw [Except.ok.injEq] at h
    exact Or.inl ⟨hreq, h.symm⟩
  · next hreq =>
    refine Or.inr ⟨by simpa using hreq, ?_⟩
    by_cases hhandler : c.wakeUpHandler < 0
    · simp only [if_pos hhandler] at h
      split at h
      · rw [Except.ok.injEq] at h
        refine ⟨env.wakeUpHandlerCreate, _, ?_, h.symm⟩
        split
        · exact Or.inl rfl
        · exact Or.inr rfl
      · simp at h
    · simp only [if_neg hhandler] at h
      split at h
      · rw [Except.ok.injEq] at h
        exact ⟨c.wakeUpHandler, _, Or.inl rfl, h.symm⟩
      · simp at h

/-- Arming the timer touches nothing else. -/
theorem requestNextWakeUp_keeps {env : Env} (h : c.requestNextWakeUp env = .ok c') :
    ∃ wakeUpHandler wakePending wakeUpRequested,
      c' = { c with wakeUpHandler, wakePending, wakeUpRequested } := by
  rcases requestNextWakeUp_spec h with ⟨-, hc⟩ | ⟨-, handler, pending, -, hc⟩
  · exact ⟨c.wakeUpHandler, c.wakePending, c.wakeUpRequested, hc⟩
  · exact ⟨handler, .wake :: pending, true, hc⟩

end Client

namespace App

variable {a b : App} {env : Env}

/-- OBJECT_REGISTERED arms the timers of the tasklet, and the wake-up timer. -/
theorem pdmcClientRegistered_spec (h : a.pdmcClientRegistered env = .ok b) :
    ∃ b₁ b₂ blinky client, a.blinky.startLoop env = .ok b₁ ∧
      b₁.requestNextLoopEvent env = .ok b₂ ∧
      b₂.requestAutomaticIncrementEvent env = .ok blinky ∧
      { a.client with registered := true, pdmcClientErrorCount := 0 }.requestNextWakeUp env =
        .ok client ∧
      b = { a with client, blinky } := by
  obtain ⟨b₁, h₁, h⟩ := bind_eq_ok.mp h
  obtain ⟨b₂, h₂, h⟩ := bind_eq_ok.mp h
  obtain ⟨blinky, h₃, h⟩ := bind_eq_ok.mp h
  obtain ⟨client, hclient, h⟩ := bind_eq_ok.mp h
  rw [pure_eq_ok, Except.ok.injEq] at h
  exact ⟨b₁, b₂, blinky, client, h₁, h₂, h₃, hclient, h.symm⟩

/-- OBJECT_REGISTERED touches the player, the wake-up timer, `registered` and the error
count. -/
theorem pdmcClientRegistered_keeps (h : a.pdmcClientRegistered env = .ok b) :
    ∃ blinky wakeUpHandler wakePending wakeUpRequested,
      b = { a with
        client := { a.client with
          registered := true, pdmcClientErrorCount := 0, wakeUpHandler, wakePending,
          wakeUpRequested }
        blinky } := by
  obtain ⟨_, _, blinky, client, -, -, -, hclient, hb⟩ := pdmcClientRegistered_spec h
  obtain ⟨handler, pending, requested, hkeeps⟩ := Client.requestNextWakeUp_keeps hclient
  exact ⟨blinky, handler, pending, requested, hkeeps ▸ hb⟩

/-- What is left behind by a client event other than OBJECT_REGISTERED. -/
def afterEvent (e : ClientEvent) (a : App) : App :=
  { a with
    client := { a.client with
      registered := !e.isUnregistered && a.client.registered
      registerCalled := !e.isUnregistered && a.client.registerCalled
      pdmcClientErrorCount :=
        if e.resetsErrors then 0
        else if e.countsError then a.client.pdmcClientErrorCount + 1
        else a.client.pdmcClientErrorCount }
    log := if e.isSetupCompleted then .connectRegister a.net.getNetworkInterface :: a.log
      else a.log }

/-- What a client event does that is handled to its end. -/
theorem pdmcEventHandler_spec {e : ClientEvent} (h : a.pdmcEventHandler env e = .ok b) :
    (e.isRegistered = true ∧ a.pdmcClientRegistered env = .ok b) ∨
      (e.isRegistered = false ∧ b = a.afterEvent e) := by
  obtain ⟨type, id⟩ := e
  cases type with
  | startup =>
    refine Or.inr ⟨rfl, ?_⟩
    simp only [pdmcEventHandler, Except.ok.injEq] at h
    exact h.symm
  | code errorCode =>
    cases id with
    | objectRegistered => exact Or.inl ⟨rfl, h⟩
    | error =>
      refine Or.inr ⟨rfl, ?_⟩
      obtain ⟨c, hc, rfl⟩ := bind_pure_eq_ok.mp h
      unfold Client.pdmcClientErrorEvent at hc
      split at hc
      · next hcounted =>
        obtain ⟨-, rfl⟩ := Client.rebootIfThresholdValue_eq_ok hc
        simp [afterEvent, ClientEvent.resetsErrors, ClientEvent.countsError,
          ClientEvent.isUnregistered, ClientEvent.isSetupCompleted, hcounted]
      · next hcounted =>
        rw [Except.ok.injEq] at hc
        simp [afterEvent, ClientEvent.resetsErrors, ClientEvent.countsError,
          ClientEvent.isUnregistered, ClientEvent.isSetupCompleted, hcounted, hc]
    | _ =>
      refine Or.inr ⟨rfl, ?_⟩
      simp only [pdmcEventHandler, Except.ok.injEq] at h
      exact h.symm

/-- What a client event that is handled to its end does to the error count. -/
theorem pdmcEventHandler_errorCount {e : ClientEvent} (h : a.pdmcEventHandler env e = .ok b) :
    b.client.pdmcClientErrorCount =
      if e.resetsErrors then 0
      else if e.countsError then a.client.pdmcClientErrorCount + 1
      else a.client.pdmcClientErrorCount := by
  rcases pdmcEventHandler_spec h with ⟨he, h⟩ | ⟨-, rfl⟩
  · rw [if_pos (ClientEvent.resetsErrors_of_isRegistered he)]
    obtain ⟨_, _, _, _, hb⟩ := pdmcClientRegistered_keeps h
    rw [hb]
  · rfl

/-- An error event reboots the device when it is counted and brings the count to
five. -/
theorem pdmcEventHandler_error_eq_reboot_iff {errorCode : Lwm2mError} :
    a.pdmcEventHandler env ⟨.code errorCode, .error⟩ = .error .reboot ↔
      Client.isCountedError errorCode = true ∧
        a.client.pdmcClientErrorCount + 1 = maxPdmcClientErrorCount := by
  simp only [pdmcEventHandler, Client.pdmcClientErrorEvent]
  cases hcounted : Client.isCountedError errorCode with
  | false => simp
  | true =>
    rw [if_pos rfl, ← Client.rebootIfThresholdValue_eq_reboot_iff]
    cases a.client.rebootIfThresholdValue maxPdmcClientErrorCount with
    | ok c => simp
    | error e => simp

/-- All of `init_example_resources` succeeds. -/
def ResourceEnv.ok (env : ResourceEnv) : Bool :=
  env.addButton && env.setCounter && env.addPattern && env.setPattern && env.addBlink &&
    env.addUnregister

/-- `init_example_resources` fills in the registry, and succeeds if all its calls do. -/
theorem initExampleResources_spec (env : ResourceEnv) (a : App) :
    (a.initExampleResources env).1 = env.ok ∧ ∃ counter registry,
      (a.initExampleResources env).2 =
        { a with client := { a.client with counter }, registry } := by
  obtain ⟨addButton, setCounter, addPattern, setPattern, addBlink, addUnregister⟩ := env
  cases addButton
  · exact ⟨rfl, _, _, rfl⟩
  cases setCounter
  · exact ⟨rfl, _, _, rfl⟩
  cases addPattern
  · exact ⟨rfl, _, _, rfl⟩
  cases setPattern
  · exact ⟨rfl, _, _, rfl⟩
  cases addBlink
  · exact ⟨rfl, _, _, rfl⟩
  cases addUnregister
  · exact ⟨rfl, _, _, rfl⟩
  · exact ⟨rfl, _, _, rfl⟩

/-- `init_pdmc_client` starts the client, and has it register if there are resources. -/
theorem initPdmcClient_spec (env : ResourceEnv) (a : App) :
    ∃ counter registry, a.initPdmcClient env =
      { a with
        client := { a.client with
          initialised := true, counter, registerCalled := env.ok || a.client.registerCalled },
        registry } := by
  obtain ⟨hok, counter, registry, h⟩ := initExampleResources_spec env
    { a with client := { a.client with initialised := true } }
  refine ⟨counter, registry, ?_⟩
  simp only [initPdmcClient, h, hok]
  cases env.ok <;> rfl

end App

/-! ### The tasklet -/

/-- What an event of the tasklet does to the player. -/
def Blinky.onEvent (env : Env) (type : BlinkyEvent) (b : Blinky) : Except Stop Blinky :=
  match type with
  | .loopInit => if b.staticBlinky then b.requestNextLoopEvent env else .error .nullDereference
  | .patternTimer => b.handlePatternEvent env
  | .loopTimer => b.requestNextLoopEvent env
  | .automaticIncrementTimer => b.requestAutomaticIncrementEvent env
  | .patternInit => .ok b

namespace App

variable {a b c : App} {env : Env}

/-- From `a` to `b`, the counter has been incremented and the buttons have been seen
to, or not. -/
def Clicked (a b : App) : Prop :=
  ∃ buttonCount registry buttons calls,
    b = { a with blinky := { a.blinky with buttonCount }, registry, buttons,
                 log := calls ++ a.log } ∧
    ∀ c ∈ calls, c = .connectClose

theorem Clicked.refl (a : App) : a.Clicked a :=
  ⟨a.blinky.buttonCount, a.registry, a.buttons, [], rfl, by simp⟩

theorem Clicked.trans (hab : a.Clicked b) (hbc : b.Clicked c) : a.Clicked c := by
  obtain ⟨_, _, _, calls, rfl, hcalls⟩ := hab
  obtain ⟨buttonCount, registry, buttons, calls', rfl, hcalls'⟩ := hbc
  refine ⟨buttonCount, registry, buttons, calls' ++ calls, by simp, ?_⟩
  intro call hcall
  rcases List.mem_append.mp hcall with hcall | hcall
  · exact hcalls' call hcall
  · exact hcalls call hcall

theorem incrementButtonValue_clicked (env : Env) (a : App) :
    a.Clicked (a.incrementButtonValue env).2 := by
  unfold incrementButtonValue
  dsimp only
  split
  · exact ⟨_, _, a.buttons, [], rfl, by simp⟩
  · exact ⟨_, a.registry, a.buttons, [], rfl, by simp⟩

theorem clickButtons_clicked (env : Env) (a : App) : a.Clicked (a.clickButtons env) := by
  have hresource : a.Clicked (if a.buttons.resourcePressed then
      ({ a with buttons := { a.buttons with resourcePressed := false } }.incrementButtonValue
        env).2 else a) := by
    split
    · refine Clicked.trans ?_ (incrementButtonValue_clicked env _)
      exact ⟨_, _, _, [], rfl, by simp⟩
    · exact Clicked.refl a
  have hunregister : ∀ c : App, c.Clicked (if c.buttons.unregisterPressed then
      { c with buttons := { c.buttons with unregisterPressed := false } }.pdmcClientClose
      else c) := by
    intro c
    split
    · exact ⟨_, _, _, [.connectClose], rfl, by simp⟩
    · exact Clicked.refl c
  exact hresource.trans (hunregister _)

/-- An event of the tasklet is seen to by the player, and then perhaps by the
buttons. -/
theorem blinkyEventHandlerWrapper_spec {type : BlinkyEvent}
    (h : a.blinkyEventHandlerWrapper env type = .ok b) :
    ∃ blinky, a.blinky.onEvent env type = .ok blinky ∧ { a with blinky }.Clicked b := by
  cases type with
  | loopInit =>
    simp only [blinkyEventHandlerWrapper] at h
    split at h
    · next hstatic =>
      obtain ⟨blinky, hblinky, rfl⟩ := bind_pure_eq_ok.mp h
      exact ⟨blinky, (if_pos hstatic).trans hblinky, Clicked.refl _⟩
    · simp at h
  | patternInit =>
    simp only [blinkyEventHandlerWrapper, Except.ok.injEq] at h
    subst h
    exact ⟨a.blinky, rfl, Clicked.refl _⟩
  | patternTimer =>
    obtain ⟨blinky, hblinky, rfl⟩ := bind_pure_eq_ok.mp h
    exact ⟨blinky, hblinky, Clicked.refl _⟩
  | loopTimer =>
    obtain ⟨blinky, hblinky, h⟩ := bind_eq_ok.mp h
    refine ⟨blinky, hblinky, ?_⟩
    dsimp only at h
    split at h
    · rw [pure_eq_ok, Except.ok.injEq] at h
      subst h
      exact clickButtons_clicked env _
    · rw [pure_eq_ok, Except.ok.injEq] at h
      subst h
      exact Clicked.refl _
  | automaticIncrementTimer =>
    obtain ⟨blinky, hblinky, h⟩ := bind_eq_ok.mp h
    refine ⟨blinky, hblinky, ?_⟩
    dsimp only at h
    split at h
    · rw [pure_eq_ok, Except.ok.injEq] at h
      subst h
      exact incrementButtonValue_clicked env _
    · rw [pure_eq_ok, Except.ok.injEq] at h
      subst h
      exact Clicked.refl _

/-! ### Requests -/

/-- The pattern is read where there is one and the read succeeds. -/
theorem patternStr_eq_some {patternStr : List UInt8} :
    a.patternStr env = some patternStr ↔
      env.registryGetValueString = true ∧ a.registry.pattern = some patternStr := by
  unfold App.patternStr
  split
  · next hread => simp [hread]
  · next hread => simp [hread]

/-- Otherwise the callback reads through a pointer never set. -/
theorem blinkCallback_of_not_read {path : RegistryPath} {token : Token}
    (h : env.registryGetValueString = false) :
    a.blinkCallback env .execute path token = .error .danglingPointer := by
  simp [blinkCallback, App.patternStr, h]

/-- A POST to the blink resource is remembered, played and left to be answered; other
calls of its callback do nothing. -/
theorem blinkCallback_spec {type : CallbackType} {path : RegistryPath} {token : Token}
    (h : a.blinkCallback env type path token = .ok b) :
    (type ≠ .execute ∧ b = a) ∨
      (type = .execute ∧ ∃ patternStr success blinky,
        a.blinky.start env patternStr false = .ok (success, blinky) ∧
        b = { a with
          client := { a.client with executeToken := token, executePath := path }
          blinky
          responsesDue := a.responsesDue + 1
          log := .postAccepted path token :: a.log }) := by
  cases type with
  | execute =>
    refine Or.inr ⟨rfl, ?_⟩
    simp only [blinkCallback] at h
    split at h
    · simp at h
    · obtain ⟨⟨success, blinky⟩, hstart, h⟩ := bind_eq_ok.mp h
      simp only [pure_eq_ok, Except.ok.injEq] at h
      exact ⟨_, success, blinky, hstart, h.symm⟩
  | valueUpdated =>
    simp only [blinkCallback, Except.ok.injEq] at h
    exact Or.inl ⟨by decide, h.symm⟩
  | other =>
    simp only [blinkCallback, Except.ok.injEq] at h
    exact Or.inl ⟨by decide, h.symm⟩

/-- The unregister callback answers its own POST, or closes the client. -/
theorem unregisterCallback_spec (path : RegistryPath) (token : Token)
    (status : NotificationStatus) (a : App) :
    ∃ calls, a.unregisterCallback path token status = { a with log := calls ++ a.log } ∧
      ∀ c ∈ calls, c = .promptResponse path token ∨ c = .connectClose := by
  cases status with
  | ignore => exact ⟨[.promptResponse path token], rfl, by simp⟩
  | delivered => exact ⟨[.connectClose], rfl, by simp⟩
  | sendFailed => exact ⟨[.connectClose], rfl, by simp⟩
  | other => exact ⟨[], rfl, by simp⟩

/-! ### All handlers -/

/-- What it takes for a handler to run to its end, and what it leaves behind. -/
inductive Handles (a : App) : Handler → App → Prop where
  | clientEvent {env : Env} {e : ClientEvent} {b : App} (hinit : a.client.initialised = true)
      (h : a.pdmcEventHandler env e = .ok b) : Handles a (.clientEvent env e) b
  | taskletEvent {env : Env} {type : BlinkyEvent} {blinky : Blinky} {b : App}
      (hpending : type ∈ a.blinky.pending)
      (hevent : { a.blinky with pending := a.blinky.pending.erase type }.onEvent env type =
        .ok blinky)
      (hclicked : { a with blinky }.Clicked b) : Handles a (.taskletEvent env type) b
  | blinkIgnored {env : Env} {type : CallbackType} {path : RegistryPath} {token : Token}
      (htype : type ≠ .execute) : Handles a (.blinkCallback env type path token) a
  | blinkExecute {env : Env} {path : RegistryPath} {token : Token} {patternStr : List UInt8}
      {success : Bool} {blinky : Blinky}
      (hstart : a.blinky.start env patternStr false = .ok (success, blinky)) :
      Handles a (.blinkCallback env .execute path token) { a with
        client := { a.client with executeToken := token, executePath := path }
        blinky
        responsesDue := a.responsesDue + 1
        log := .postAccepted path token :: a.log }
  | sendApplicationResponse (hdue : a.responsesDue ≠ 0) :
      Handles a .sendApplicationResponse { a with
        responsesDue := a.responsesDue - 1
        log := .deferredResponse a.client.executePath a.client.executeToken :: a.log }
  | unregisterCallback {path : RegistryPath} {token : Token} {status : NotificationStatus}
      {calls : List Call}
      (hcalls : ∀ c ∈ calls, c = .promptResponse path token ∨ c = .connectClose) :
      Handles a (.unregisterCallback path token status) { a with log := calls ++ a.log }
  | putPattern {pattern : List UInt8} {registry : Registry} :
      Handles a (.putPattern pattern) { a with registry }
  | putCounter {value : ℤ} {registry : Registry} :
      Handles a (.putCounter value) { a with registry }

/-- Every handler that runs to its end is described. -/
theorem handles_of_handle {h : Handler} (hb : a.handle h = .ok b) : a.Handles h b := by
  cases h with
  | clientEvent env e =>
    simp only [handle] at hb
    split at hb
    · next hinit => exact .clientEvent hinit hb
    · simp at hb
  | taskletEvent env type =>
    simp only [handle] at hb
    split at hb
    · next hpending =>
      obtain ⟨blinky, hevent, hclicked⟩ := blinkyEventHandlerWrapper_spec hb
      exact .taskletEvent hpending hevent hclicked
    · simp at hb
  | blinkCallback env type path token =>
    simp only [handle] at hb
    split at hb
    · rcases blinkCallback_spec hb with ⟨htype, rfl⟩ | ⟨rfl, _, _, _, hstart, rfl⟩
      · exact .blinkIgnored htype
      · exact .blinkExecute hstart
    · simp at hb
  | sendApplicationResponse =>
    simp only [handle] at hb
    split at hb
    · simp at hb
    · next hdue =>
      rw [Except.ok.injEq] at hb
      subst hb
      exact .sendApplicationResponse hdue
  | unregisterCallback path token status =>
    simp only [handle] at hb
    split at hb
    · rw [Except.ok.injEq] at hb
      obtain ⟨calls, heq, hcalls⟩ := unregisterCallback_spec path token status a
      rw [← hb, heq]
      exact .unregisterCallback hcalls
    · simp at hb
  | putPattern pattern =>
    simp only [handle] at hb
    split at hb
    · rw [Except.ok.injEq] at hb
      subst hb
      exact .putPattern
    · simp at hb
  | putCounter value =>
    simp only [handle] at hb
    split at hb
    · rw [Except.ok.injEq] at hb
      subst hb
      exact .putCounter
    · simp at hb

end App

end PelionClientLite
