import PelionClientLite.Reconnect

/-!
# The device

The whole program: `main` connects, starts the client, and dispatches the event
queue for ever.  The same queue is dispatched inside `init_connection(int8_t)`, so
that a wake-up which resumes the client leaves its handler half done, with other
handlers to come on top of it; what has been called and not returned yet is a
stack.

Status events of the driver and button presses come at any time.  Handlers run
only while the function on top of the stack dispatches.  Everything else is the
function on top of the stack going on.

## Main definitions

* `Frame`, `Device` — the stack and the variables.
* `Input`, `Device.step` — the machine.
* `Device.boot` — the device as `main` starts.
* `Device.Steps` — the steps, one for each way a step may go.

## Main results

* `Device.steps_of_step` — every step that is taken is one of these.
* `Local.handles` — no handler touches the network connection.
* `Device.step_cases` — **what a step is to the application**: a handler, the start of
  the client, or nothing.
-/

namespace PelionClientLite

open Machine

/-! ### What waits -/

namespace App

/-- `sleep_callback_function`, up to the call of `close_connection`. -/
def enterSleep (a : App) : App := (a.record .sleepCallback).record .connectPause

/-- `sleep_callback_function`, from the return of `close_connection` on. -/
def leaveSleep (a : App) : App := { a with client := { a.client with paused := true } }

/-- `pdmc_client_resume`, up to the loop of `init_connection()`. -/
def enterResume (a : App) : App :=
  { a with client := { a.client with paused := false } }.record .clientResume
    |>.enterInitConnection

/-- `pdmc_client_resume`, from the return of `init_connection()` on. -/
def leaveResume (a : App) : App := a.record (.connectResume a.net.getNetworkInterface)

/-- `wake_up_event_handler_wrapper`, up to the call of `pdmc_client_resume`. -/
def wakeUp (env : Env) (a : App) : Except Stop App := do
  let client ← { a.client with wakeUpRequested := false }.requestNextWakeUp env
  return { a with client }

theorem wakeUp_spec {a b : App} {env : Env} (h : a.wakeUp env = .ok b) :
    ∃ client, { a.client with wakeUpRequested := false }.requestNextWakeUp env = .ok client ∧
      b = { a with client } := by
  obtain ⟨client, hclient, hb⟩ := bind_pure_eq_ok.mp h
  exact ⟨client, hclient, hb.symm⟩

/-- Up to the call of `pdmc_client_resume`, only the wake-up timer is touched. -/
theorem wakeUp_keeps {a b : App} {env : Env} (h : a.wakeUp env = .ok b) :
    ∃ wakeUpHandler wakePending wakeUpRequested, b = { a with client := { a.client with
      wakeUpHandler, wakePending, wakeUpRequested } } := by
  obtain ⟨client, hclient, hb⟩ := wakeUp_spec h
  obtain ⟨handler, pending, requested, hkeeps⟩ := Client.requestNextWakeUp_keeps hclient
  exact ⟨handler, pending, requested, hkeeps ▸ hb⟩

end App

/-! ### The stack -/

/-- Who calls `init_connection()`. -/
inductive Caller where
  | main
  | pdmcClientResume
  deriving DecidableEq, Repr

/-- A call that has not returned. -/
inductive Frame where
  /-- `init_connection()`, in a call of `init_connection(-1)` that waits at `p`. -/
  | attempt (caller : Caller) (timeoutMs : ℤ) (p : ConnPoint)
  /-- `init_connection()`, in `do_wait`. -/
  | backOff (caller : Caller) (timeoutMs : ℤ)
  /-- The caller of `init_connection()`, which has returned. -/
  | connected (caller : Caller)
  /-- `sleep_callback_function`, in `disconnect()`. -/
  | sleep
  /-- `main`, in `dispatch_forever()`. -/
  | mainLoop
  deriving DecidableEq, Repr

/-- The function dispatches the event queue. -/
def Frame.dispatches : Frame → Bool
  | .attempt _ _ (.dispatch _) => true
  | .mainLoop => true
  | _ => false

/-- Where `init_connection()` is when `init_connection(-1)` has run on: in the call still,
or on its way to the next call, or back in its caller. -/
def Frame.ofNext (caller : Caller) (timeoutMs : ℤ) : ConnNext → Frame
  | .waits p => .attempt caller timeoutMs p
  | .returned true => .connected caller
  | .returned false => .backOff caller timeoutMs

/-- The variables and the stack, its top first. -/
structure Device where
  app : App
  stack : List Frame

/-- What may happen to the device. -/
inductive Input where
  /-- The driver reports a status. -/
  | status (event : NsapiEvent) (status : NsapiStatus)
  /-- Buttons are pressed. -/
  | press (buttons : Buttons)
  /-- A handler runs. -/
  | run (h : Handler)
  /-- An event of the wake-up handler is delivered. -/
  | wakeUp (env : Env) (type : WakeUpEvent)
  /-- The client asks to sleep. -/
  | sleep
  /-- The wait on top of the stack ends. -/
  | driver (r : DriverInput)
  /-- `main` calls `init_pdmc_client`. -/
  | initPdmcClient (env : App.ResourceEnv)

namespace Device

/-- The event queue is being dispatched. -/
def dispatches (d : Device) : Bool := d.stack.head?.any Frame.dispatches

/-- `init_connection(-1)` waits, or returns to `init_connection()`. -/
def settle (caller : Caller) (timeoutMs : ℤ) (a : App) (stack : List Frame)
    (next : Net × ConnNext) : Device :=
  ⟨{ a with net := next.1 }, .ofNext caller timeoutMs next.2 :: stack⟩

/-- `init_connection()` calls `init_connection(-1)`. -/
def attempt (caller : Caller) (timeoutMs : ℤ) (a : App) (stack : List Frame) : Device :=
  settle caller timeoutMs a stack (a.net.initConnection (-1))

/-- The device as `main` calls `init_connection()`. -/
def boot (defaultInstance : Option NetworkInterface) : Device :=
  attempt .main 5000 { net := { defaultInstance } : App }.enterInitConnection []

/-- An event of the wake-up handler. -/
def wakeUp (env : Env) (type : WakeUpEvent) (d : Device) : Except Stop Device :=
  if type ∈ d.app.client.wakePending then
    let a := { d.app with client :=
      { d.app.client with wakePending := d.app.client.wakePending.erase type } }
    match type with
    | .init => .ok { d with app := a }
    | .wake => do
        let a ← a.wakeUp env
        if a.client.paused then return attempt .pdmcClientResume 5000 a.enterResume d.stack
        else return { d with app := a }
  else .error .refused

/-- `sleep_callback_function`. -/
def sleep (d : Device) : Device :=
  let a := d.app.enterSleep
  match a.net.closeConnection with
  | none => ⟨a, .sleep :: d.stack⟩
  | some _ => ⟨a.leaveSleep, d.stack⟩

/-- The function on top of the stack goes on. -/
def goOn (d : Device) (r : DriverInput) : Except Stop Device :=
  match d.stack, r with
  | .attempt caller timeoutMs p :: stack, r => do
      let next ← d.app.net.connStep p r
      return settle caller timeoutMs d.app stack next
  | .backOff caller timeoutMs :: stack, .proceed => do
      let (timeoutMs, a) ← d.app.retryInitConnection timeoutMs
      return attempt caller timeoutMs a stack
  | .connected .pdmcClientResume :: stack, .proceed => .ok ⟨d.app.leaveResume, stack⟩
  | .sleep :: stack, .disconnectReturns err =>
      let (net, _) := d.app.net.closeStep err
      .ok ⟨{ d.app with net }.leaveSleep, stack⟩
  -- a break meant for `init_connection` would end the dispatch of `main`
  | .mainLoop :: _, .dispatchReturns =>
      if d.app.net.breakRequested then .error .mainReturned else .error .refused
  | _, _ => .error .refused

/-- One step of the device. -/
def step (d : Device) : Input → Except Stop Device
  | .status event status =>
      if d.app.net.listeners = 0 then .error .refused
      else .ok { d with app := { d.app with net := d.app.net.networkStatusCallback event status } }
  | .press buttons =>
      let buttons : Buttons :=
        ⟨d.app.buttons.resourcePressed || buttons.resourcePressed,
          d.app.buttons.unregisterPressed || buttons.unregisterPressed⟩
      .ok { d with app := { d.app with buttons } }
  | .run h =>
      if d.dispatches then do
        let app ← d.app.handle h
        return { d with app }
      else .error .refused
  | .wakeUp env type => if d.dispatches then d.wakeUp env type else .error .refused
  | .sleep =>
      if d.dispatches && d.app.client.initialised then .ok d.sleep else .error .refused
  | .driver r => d.goOn r
  | .initPdmcClient env =>
      match d.stack with
      | .connected .main :: stack => .ok ⟨d.app.initPdmcClient env, .mainLoop :: stack⟩
      | _ => .error .refused

/-- The shortest way into the loop of `main`: the interface is connected already. -/
def startUp : List Input :=
  [.driver (.setBlockingReturns .ok), .driver (.connectReturns .isConnected), .driver .proceed,
    .initPdmcClient {}]

/-! ### What a step can be -/

/-- What it takes for a step to be taken, and where it leads. -/
inductive Steps (d : Device) : Input → Device → Prop where
  | status {event : NsapiEvent} {status : NsapiStatus} (hlisten : d.app.net.listeners ≠ 0) :
      Steps d (.status event status)
        { d with app := { d.app with net := d.app.net.networkStatusCallback event status } }
  | press {pressed buttons : Buttons} :
      Steps d (.press pressed) { d with app := { d.app with buttons } }
  | run {h : Handler} {a : App} (hdispatch : d.dispatches = true) (hhandles : d.app.Handles h a) :
      Steps d (.run h) { d with app := a }
  | wakeUpInit {env : Env} (hdispatch : d.dispatches = true)
      (hpending : .init ∈ d.app.client.wakePending) :
      Steps d (.wakeUp env .init) { d with app := { d.app with client :=
        { d.app.client with wakePending := d.app.client.wakePending.erase .init } } }
  | wakeUpAwake {env : Env} {a : App} (hdispatch : d.dispatches = true)
      (hpending : .wake ∈ d.app.client.wakePending)
      (hwake : { d.app with client := { d.app.client with
        wakePending := d.app.client.wakePending.erase .wake } }.wakeUp env = .ok a)
      (hawake : a.client.paused = false) : Steps d (.wakeUp env .wake) { d with app := a }
  | wakeUpPaused {env : Env} {a : App} (hdispatch : d.dispatches = true)
      (hpending : .wake ∈ d.app.client.wakePending)
      (hwake : { d.app with client := { d.app.client with
        wakePending := d.app.client.wakePending.erase .wake } }.wakeUp env = .ok a)
      (hpaused : a.client.paused = true) :
      Steps d (.wakeUp env .wake) (attempt .pdmcClientResume 5000 a.enterResume d.stack)
  | sleepWaits (hdispatch : d.dispatches = true)
      (hclose : d.app.enterSleep.net.closeConnection = none) :
      Steps d .sleep ⟨d.app.enterSleep, .sleep :: d.stack⟩
  | sleepReturns {closed : Bool} (hdispatch : d.dispatches = true)
      (hclose : d.app.enterSleep.net.closeConnection = some closed) :
      Steps d .sleep ⟨d.app.enterSleep.leaveSleep, d.stack⟩
  | connects {caller : Caller} {timeoutMs : ℤ} {p : ConnPoint} {stack : List Frame}
      {r : DriverInput} {next : Net × ConnNext}
      (hstack : d.stack = .attempt caller timeoutMs p :: stack)
      (hconn : d.app.net.connStep p r = .ok next) :
      Steps d (.driver r) (settle caller timeoutMs d.app stack next)
  | retries {caller : Caller} {timeoutMs timeoutMs' : ℤ} {stack : List Frame} {a : App}
      (hstack : d.stack = .backOff caller timeoutMs :: stack)
      (hretry : d.app.retryInitConnection timeoutMs = .ok (timeoutMs', a)) :
      Steps d (.driver .proceed) (attempt caller timeoutMs' a stack)
  | resumes {stack : List Frame} (hstack : d.stack = .connected .pdmcClientResume :: stack) :
      Steps d (.driver .proceed) ⟨d.app.leaveResume, stack⟩
  | sleeps {stack : List Frame} {err : NsapiError} (hstack : d.stack = .sleep :: stack) :
      Steps d (.driver (.disconnectReturns err))
        ⟨{ d.app with net := (d.app.net.closeStep err).1 }.leaveSleep, stack⟩
  | initPdmcClient {env : App.ResourceEnv} {stack : List Frame}
      (hstack : d.stack = .connected .main :: stack) :
      Steps d (.initPdmcClient env) ⟨d.app.initPdmcClient env, .mainLoop :: stack⟩

theorem steps_of_wakeUp {d t : Device} {env : Env} {type : WakeUpEvent}
    (hdispatch : d.dispatches = true) (h : d.wakeUp env type = .ok t) :
    d.Steps (.wakeUp env type) t := by
  simp only [wakeUp] at h
  split at h
  · next hpending =>
    cases type with
    | init =>
      simp only [Except.ok.injEq] at h
      subst h
      exact .wakeUpInit hdispatch hpending
    | wake =>
      obtain ⟨a, ha, h⟩ := bind_eq_ok.mp h
      split at h
      · next hpaused =>
        rw [pure_eq_ok, Except.ok.injEq] at h
        subst h
        exact .wakeUpPaused hdispatch hpending ha hpaused
      · next hawake =>
        rw [pure_eq_ok, Except.ok.injEq] at h
        subst h
        exact .wakeUpAwake hdispatch hpending ha (by simpa using hawake)
  · simp at h

theorem steps_of_goOn {d t : Device} {r : DriverInput} (h : d.goOn r = .ok t) :
    d.Steps (.driver r) t := by
  unfold goOn at h
  split at h
  · next hstack =>
    obtain ⟨next, hconn, rfl⟩ := bind_pure_eq_ok.mp h
    exact .connects hstack hconn
  · next hstack =>
    obtain ⟨⟨timeoutMs, a⟩, hretry, h⟩ := bind_eq_ok.mp h
    simp only [pure_eq_ok, Except.ok.injEq] at h
    subst h
    exact .retries hstack hretry
  · next hstack =>
    rw [Except.ok.injEq] at h
    subst h
    exact .resumes hstack
  · next hstack =>
    rw [Except.ok.injEq] at h
    subst h
    exact .sleeps hstack
  · split at h <;> simp at h
  · simp at h

/-- Every step that is taken is one of these. -/
theorem steps_of_step {d t : Device} {i : Input} (h : d.step i = .ok t) : d.Steps i t := by
  cases i with
  | status event status =>
    simp only [step] at h
    split at h
    · simp at h
    · next hlisten =>
      rw [Except.ok.injEq] at h
      subst h
      exact .status hlisten
  | press buttons =>
    simp only [step, Except.ok.injEq] at h
    subst h
    exact .press
  | run hd =>
    simp only [step] at h
    split at h
    · next hdispatch =>
      obtain ⟨a, ha, rfl⟩ := bind_pure_eq_ok.mp h
      exact .run hdispatch (App.handles_of_handle ha)
    · simp at h
  | wakeUp env type =>
    simp only [step] at h
    split at h
    · next hdispatch => exact steps_of_wakeUp hdispatch h
    · simp at h
  | sleep =>
    simp only [step] at h
    split at h
    · next hready =>
      have hdispatch : d.dispatches = true := (Bool.and_eq_true_iff.mp hready).1
      rw [Except.ok.injEq] at h
      subst h
      simp only [sleep]
      split
      · next hclose => exact .sleepWaits hdispatch hclose
      · next hclose => exact .sleepReturns hdispatch hclose
    · simp at h
  | driver r => exact steps_of_goOn h
  | initPdmcClient env =>
    simp only [step] at h
    split at h
    · next hstack =>
      rw [Except.ok.injEq] at h
      subst h
      exact .initPdmcClient hstack
    · simp at h

end Device

/-! ### What stays untouched -/

/-- What is read off the log does not see calls that are of no interest to it. -/
theorem Call.filterMap_append {β : Type*} {f : Call → Option β} {calls : List Call}
    (h : ∀ c ∈ calls, f c = none) (log : List Call) :
    (calls ++ log).filterMap f = log.filterMap f := by
  have hnil : calls.filterMap f = [] := List.filterMap_eq_nil_iff.mpr h
  rw [List.filterMap_append, hnil, List.nil_append]

/-- The call concerns the network connection. -/
def Call.isNetwork : Call → Bool
  | .connectResume _ => true
  | .connectPause => true
  | .sleepCallback => true
  | .clientResume => true
  | _ => false

/-- From `a` to `b`, the network connection is as it was and the client as awake as it
was, and nothing has been done that concerns the connection. -/
structure Local (a b : App) : Prop where
  net : b.net = a.net
  paused : b.client.paused = a.client.paused
  log : ∃ calls, b.log = calls ++ a.log ∧ ∀ c ∈ calls, c.isNetwork = false

namespace Local

variable {a b : App} {env : Env}

theorem pdmcEventHandler {e : ClientEvent} (h : a.pdmcEventHandler env e = .ok b) :
    Local a b := by
  rcases App.pdmcEventHandler_spec h with ⟨-, h⟩ | ⟨-, rfl⟩
  · obtain ⟨_, _, _, _, hb⟩ := App.pdmcClientRegistered_keeps h
    subst hb
    exact ⟨rfl, rfl, [], rfl, by simp⟩
  · refine ⟨rfl, rfl, ?_⟩
    simp only [App.afterEvent]
    split
    · exact ⟨[_], rfl, by simp [Call.isNetwork]⟩
    · exact ⟨[], rfl, by simp⟩

/-- No handler touches the network connection. -/
theorem handles {h : Handler} (hb : a.Handles h b) : Local a b := by
  cases hb with
  | clientEvent _ h => exact pdmcEventHandler h
  | taskletEvent _ _ hclicked =>
    obtain ⟨_, _, _, calls, rfl, hcalls⟩ := hclicked
    refine ⟨rfl, rfl, calls, rfl, ?_⟩
    intro c hc
    rw [hcalls c hc]
    rfl
  | blinkIgnored => exact ⟨rfl, rfl, [], rfl, by simp⟩
  | blinkExecute => exact ⟨rfl, rfl, [_], rfl, by simp [Call.isNetwork]⟩
  | sendApplicationResponse => exact ⟨rfl, rfl, [_], rfl, by simp [Call.isNetwork]⟩
  | @unregisterCallback _ _ _ calls hcalls =>
    refine ⟨rfl, rfl, calls, rfl, ?_⟩
    intro c hc
    rcases hcalls c hc with rfl | rfl <;> rfl
  | putPattern => exact ⟨rfl, rfl, [], rfl, by simp⟩
  | putCounter => exact ⟨rfl, rfl, [], rfl, by simp⟩

end Local

/-- From `a` to `b`, the pattern player, the pending responses and `register_called` are
as they were, and nothing has been done but calls for the network connection. -/
structure Untouched (a b : App) : Prop where
  blinky : b.blinky = a.blinky
  responsesDue : b.responsesDue = a.responsesDue
  executePath : b.client.executePath = a.client.executePath
  executeToken : b.client.executeToken = a.client.executeToken
  registerCalled : b.client.registerCalled = a.client.registerCalled
  log : ∃ calls, b.log = calls ++ a.log ∧ ∀ c ∈ calls, c.isNetwork = true

namespace Untouched

variable {a b c : App}

theorem trans (hab : Untouched a b) (hbc : Untouched b c) : Untouched a c := by
  obtain ⟨calls, hcalls, hnet⟩ := hab.log
  obtain ⟨calls', hcalls', hnet'⟩ := hbc.log
  refine ⟨hbc.blinky.trans hab.blinky, hbc.responsesDue.trans hab.responsesDue,
    hbc.executePath.trans hab.executePath, hbc.executeToken.trans hab.executeToken,
    hbc.registerCalled.trans hab.registerCalled, calls' ++ calls, ?_, ?_⟩
  · rw [hcalls', hcalls, List.append_assoc]
  · intro call hcall
    rcases List.mem_append.mp hcall with hcall | hcall
    · exact hnet' call hcall
    · exact hnet call hcall

theorem record (a : App) {call : Call} (h : call.isNetwork = true) :
    Untouched a (a.record call) :=
  ⟨rfl, rfl, rfl, rfl, rfl, [call], rfl, by simpa using h⟩

theorem net (a : App) (net : Net) : Untouched a { a with net } :=
  ⟨rfl, rfl, rfl, rfl, rfl, [], rfl, by simp⟩

theorem buttons (a : App) (buttons : Buttons) : Untouched a { a with buttons } :=
  ⟨rfl, rfl, rfl, rfl, rfl, [], rfl, by simp⟩

theorem wakePending (a : App) (wakePending : List WakeUpEvent) :
    Untouched a { a with client := { a.client with wakePending } } :=
  ⟨rfl, rfl, rfl, rfl, rfl, [], rfl, by simp⟩

theorem leaveSleep (a : App) : Untouched a a.leaveSleep :=
  ⟨rfl, rfl, rfl, rfl, rfl, [], rfl, by simp⟩

theorem enterSleep (a : App) : Untouched a a.enterSleep :=
  (record a rfl).trans (record _ rfl)

theorem leaveResume (a : App) : Untouched a a.leaveResume := record a rfl

theorem enterResume (a : App) : Untouched a a.enterResume :=
  ⟨rfl, rfl, rfl, rfl, rfl, [.clientResume], rfl, by simp [Call.isNetwork]⟩

theorem wakeUp {env : Env} (h : a.wakeUp env = .ok b) : Untouched a b := by
  obtain ⟨_, _, _, hb⟩ := App.wakeUp_keeps h
  subst hb
  exact ⟨rfl, rfl, rfl, rfl, rfl, [], rfl, by simp⟩

theorem retryInitConnection {timeoutMs timeoutMs' : ℤ}
    (h : a.retryInitConnection timeoutMs = .ok (timeoutMs', b)) : Untouched a b := by
  obtain ⟨-, -, rfl⟩ := App.retryInitConnection_eq_ok h
  exact ⟨rfl, rfl, rfl, rfl, rfl, [], rfl, by simp⟩

end Untouched

namespace Device

variable {d t : Device}

theorem attempt_untouched (caller : Caller) (timeoutMs : ℤ) (a : App) (stack : List Frame) :
    Untouched a (attempt caller timeoutMs a stack).app :=
  Untouched.net a _

/-- **What a step is to the application**: a handler, the start of the client, or
nothing. -/
theorem step_cases {i : Input} (hstep : d.step i = .ok t) :
    (∃ h, i = .run h ∧ d.app.Handles h t.app) ∨
      (∃ env, i = .initPdmcClient env ∧ t.app = d.app.initPdmcClient env) ∨
      ((∀ h, i ≠ .run h) ∧ (∀ env, i ≠ .initPdmcClient env) ∧ Untouched d.app t.app) := by
  cases steps_of_step hstep with
  | run _ hhandles => exact Or.inl ⟨_, rfl, hhandles⟩
  | initPdmcClient => exact Or.inr (Or.inl ⟨_, rfl, rfl⟩)
  | status => exact Or.inr (Or.inr ⟨by simp, by simp, Untouched.net d.app _⟩)
  | press => exact Or.inr (Or.inr ⟨by simp, by simp, Untouched.buttons d.app _⟩)
  | wakeUpInit => exact Or.inr (Or.inr ⟨by simp, by simp, Untouched.wakePending d.app _⟩)
  | wakeUpAwake _ _ hwake =>
    exact Or.inr (Or.inr ⟨by simp, by simp,
      (Untouched.wakePending d.app _).trans (Untouched.wakeUp hwake)⟩)
  | wakeUpPaused _ _ hwake =>
    refine Or.inr (Or.inr ⟨by simp, by simp, Untouched.trans ?_ (attempt_untouched ..)⟩)
    exact ((Untouched.wakePending d.app _).trans (Untouched.wakeUp hwake)).trans
      (Untouched.enterResume _)
  | sleepWaits => exact Or.inr (Or.inr ⟨by simp, by simp, Untouched.enterSleep d.app⟩)
  | sleepReturns =>
    exact Or.inr (Or.inr ⟨by simp, by simp,
      (Untouched.enterSleep d.app).trans (Untouched.leaveSleep _)⟩)
  | connects => exact Or.inr (Or.inr ⟨by simp, by simp, Untouched.net d.app _⟩)
  | retries _ hretry =>
    exact Or.inr (Or.inr ⟨by simp, by simp,
      (Untouched.retryInitConnection hretry).trans (attempt_untouched ..)⟩)
  | resumes => exact Or.inr (Or.inr ⟨by simp, by simp, Untouched.leaveResume d.app⟩)
  | sleeps =>
    exact Or.inr (Or.inr ⟨by simp, by simp,
      (Untouched.net d.app _).trans (Untouched.leaveSleep _)⟩)

end Device

end PelionClientLite
