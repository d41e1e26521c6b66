import PelionClientLite.Lib.Latch
import PelionClientLite.DevicePlayer
import PelionClientLite.Registration

/-!
# What closes the client

The client is closed by a user, who presses a button that is polled while the client is to
be registered; or by the server, whose POST is answered at once, and which is told of the
answer before the client goes.  Nothing else closes it.

## Main definitions

* `Device.latchInput`, `Device.presses` — what a run is to a button.
* `Device.Asked` — what a step does to the buttons, and to what has been asked for.

## Main results

* `Device.step_asked` — every step does what it is asked to.
* `device_closes` — **every group of presses closes the client once, and so does every answer
  that has arrived or been lost; and each POST is answered at once, in turn.**
-/

namespace PelionClientLite

open Machine

/-- The buttons. -/
inductive Button where
  | resource
  | unregister
  deriving DecidableEq, Repr

/-- The flag of a button. -/
def Buttons.pressed (b : Buttons) : Button → Bool
  | .resource => b.resourcePressed
  | .unregister => b.unregisterPressed

/-- The client is to close. -/
def Call.closes : Call → Bool
  | .connectClose => true
  | _ => false

/-- A POST is answered at once. -/
def Call.prompt : Call → Option (RegistryPath × Token)
  | .promptResponse path token => some (path, token)
  | _ => none

namespace Input

/-- A POST to the unregister resource. -/
def unregisterPost : Input → Option (RegistryPath × Token)
  | .run (.unregisterCallback path token .ignore) => some (path, token)
  | _ => none

/-- The answer to one has arrived, or been lost. -/
def isNotified : Input → Bool
  | .run (.unregisterCallback _ _ .delivered) => true
  | .run (.unregisterCallback _ _ .sendFailed) => true
  | _ => false

end Input

/-- What a step is to a button: it is pressed, or seen to by a client that is to be
registered. -/
def Device.latchInput (button : Button) (d : Device) : Input → Option Latch.Input
  | .press buttons => if buttons.pressed button then some .set else none
  | .run (.taskletEvent _ .loopTimer) =>
      if d.app.client.registerCalled then some .poll else none
  | _ => none

/-- What a run is to a button. -/
def Device.presses (button : Button) (defaultInstance : Option NetworkInterface)
    (is : List Input) : List Latch.Input :=
  seen Device.step (Device.latchInput button) (.boot defaultInstance) is

/-! ### The handlers -/

namespace App

variable {a b : App} {env : Env}

/-- Nothing is asked for from `a` to `b`. -/
structure Unasked (a b : App) : Prop where
  buttons : b.buttons = a.buttons
  log : ∃ calls, b.log = calls ++ a.log ∧ ∀ c ∈ calls, c.closes = false ∧ c.prompt = none

theorem Unasked.of_log (hbuttons : b.buttons = a.buttons) (hlog : b.log = a.log) :
    a.Unasked b := ⟨hbuttons, [], hlog, by simp⟩

theorem incrementButtonValue_unasked (env : Env) (a : App) :
    (a.incrementButtonValue env).2.buttons = a.buttons ∧
      (a.incrementButtonValue env).2.log = a.log := by
  unfold incrementButtonValue
  dsimp only
  split <;> exact ⟨rfl, rfl⟩

/-- `handle_buttons` clears both buttons, and closes the client for one of them. -/
theorem clickButtons_spec (env : Env) (a : App) :
    (a.clickButtons env).buttons = ⟨false, false⟩ ∧
      (a.clickButtons env).log =
        (if a.buttons.unregisterPressed then [.connectClose] else []) ++ a.log := by
  -- the resource button comes first, then the other finds what it has left
  have hresource : ∀ c : App, (if a.buttons.resourcePressed then ({ a with buttons :=
        { a.buttons with resourcePressed := false } }.incrementButtonValue env).2
      else a) = c → c.buttons = ⟨false, a.buttons.unregisterPressed⟩ ∧ c.log = a.log := by
    rintro c rfl
    split
    · exact incrementButtonValue_unasked env _
    · next hresource =>
      rw [Bool.not_eq_true] at hresource
      exact ⟨by rw [← hresource], rfl⟩
  have hunregister : ∀ c : App, c.buttons = ⟨false, a.buttons.unregisterPressed⟩ ∧ c.log = a.log →
      (if c.buttons.unregisterPressed then
        { c with buttons := { c.buttons with unregisterPressed := false } }.pdmcClientClose
        else c).buttons = ⟨false, false⟩ ∧
      (if c.buttons.unregisterPressed then
        { c with buttons := { c.buttons with unregisterPressed := false } }.pdmcClientClose
        else c).log = (if a.buttons.unregisterPressed then [.connectClose] else []) ++ a.log := by
    rintro c ⟨hbuttons, hlog⟩
    rw [hbuttons, ← hlog]
    cases hpressed : a.buttons.unregisterPressed with
    | true => exact ⟨rfl, rfl⟩
    | false => exact ⟨hbuttons.trans (by rw [hpressed]), rfl⟩
  exact hunregister _ (hresource _ rfl)

/-- What an event of the tasklet does to the buttons. -/
theorem blinkyEventHandlerWrapper_asked {type : BlinkyEvent}
    (h : a.blinkyEventHandlerWrapper env type = .ok b) :
    (type = .loopTimer ∧ a.client.registerCalled = true ∧ b.buttons = ⟨false, false⟩ ∧
      b.log = (if a.buttons.unregisterPressed then [.connectClose] else []) ++ a.log) ∨
    ((type = .loopTimer → a.client.registerCalled = false) ∧ b.buttons = a.buttons ∧
      b.log = a.log) := by
  cases type with
  | loopInit =>
    simp only [blinkyEventHandlerWrapper] at h
    split at h
    · obtain ⟨_, -, rfl⟩ := bind_pure_eq_ok.mp h
      exact Or.inr ⟨by simp, rfl, rfl⟩
    · simp at h
  | patternInit =>
    simp only [blinkyEventHandlerWrapper, Except.ok.injEq] at h
    subst h
    exact Or.inr ⟨by simp, rfl, rfl⟩
  | patternTimer =>
    obtain ⟨_, -, rfl⟩ := bind_pure_eq_ok.mp h
    exact Or.inr ⟨by simp, rfl, rfl⟩
  | loopTimer =>
    obtain ⟨blinky, -, h⟩ := bind_eq_ok.mp h
    dsimp only at h
    split at h <;> rw [pure_eq_ok, Except.ok.injEq] at h <;> subst h
    · next hcalled => exact Or.inl ⟨rfl, hcalled, clickButtons_spec env _⟩
    · next hcalled => exact Or.inr ⟨fun _ => by simpa using hcalled, rfl, rfl⟩
  | automaticIncrementTimer =>
    obtain ⟨blinky, -, h⟩ := bind_eq_ok.mp h
    dsimp only at h
    split at h <;> rw [pure_eq_ok, Except.ok.injEq] at h <;> subst h
    · exact Or.inr ⟨by simp, incrementButtonValue_unasked env _⟩
    · exact Or.inr ⟨by simp, rfl, rfl⟩

/-- A client event asks for nothing. -/
theorem pdmcEventHandler_unasked {e : ClientEvent} (h : a.pdmcEventHandler env e = .ok b) :
    a.Unasked b := by
  rcases pdmcEventHandler_spec h with ⟨-, h⟩ | ⟨-, rfl⟩
  · obtain ⟨_, _, _, _, rfl⟩ := pdmcClientRegistered_keeps h
    exact .of_log rfl rfl
  · refine ⟨rfl, if e.isSetupCompleted then [.connectRegister a.net.getNetworkInterface] else [],
      ?_, ?_⟩
    · dsimp only [afterEvent]
      split <;> rfl
    · split <;> simp [Call.closes, Call.prompt]

end App

namespace Device

variable {d t : Device} {i : Input}

/-- What a step does to the buttons, and to what has been asked for. -/
structure Asked (d t : Device) (i : Input) : Prop where
  buttons : ∀ button, t.app.buttons.pressed button =
    match d.latchInput button i with
    | some .set => true
    | some .poll => false
    | none => d.app.buttons.pressed button
  closes : t.app.log.countP (·.closes) =
    (if i.isNotified then 1 else 0) + d.app.log.countP (·.closes) +
      if d.latchInput .unregister i = some .poll ∧ d.app.buttons.pressed .unregister = true
        then 1 else 0
  prompts : t.app.log.filterMap (·.prompt) =
    i.unregisterPost.toList ++ d.app.log.filterMap (·.prompt)

/-- A step that nobody asks for anything in. -/
theorem Asked.of_unasked (h : d.app.Unasked t.app) (hlatch : ∀ button, d.latchInput button i = none)
    (hpost : i.unregisterPost = none) (hnotified : i.isNotified = false) : d.Asked t i := by
  obtain ⟨hbuttons, calls, hlog, hcalls⟩ := h
  refine ⟨?_, ?_, ?_⟩
  · intro button
    rw [hlatch, hbuttons]
  · have hnone : calls.countP (·.closes) = 0 :=
      List.countP_eq_zero.mpr fun c hc => by simp [(hcalls c hc).1]
    rw [hlog, List.countP_append, hnone, hnotified, hlatch]
    simp
  · have hnone : calls.filterMap (·.prompt) = [] :=
      List.filterMap_eq_nil_iff.mpr fun c hc => (hcalls c hc).2
    rw [hlog, List.filterMap_append, hnone, hpost]
    rfl

/-- A handler does what it is asked to. -/
theorem run_asked {h : Handler} (hstep : d.step (.run h) = .ok t) : d.Asked t (.run h) := by
  obtain ⟨b, stack⟩ := t
  have hb : d.app.handle h = .ok b := handle_of_step hstep
  cases h with
  | taskletEvent env type =>
    simp only [App.handle] at hb
    split at hb
    · rcases App.blinkyEventHandlerWrapper_asked hb with
        ⟨rfl, hcalled, hbuttons, hlog⟩ | ⟨hcalled, hbuttons, hlog⟩
      · -- the buttons are seen to
        have hcalled' : d.app.client.registerCalled = true := hcalled
        have hpoll : ∀ button, d.latchInput button (.run (.taskletEvent env .loopTimer)) =
            some .poll := by simp [latchInput, hcalled']
        refine ⟨?_, ?_, ?_⟩
        · intro button
          rw [hpoll, hbuttons]
          cases button <;> rfl
        · rw [hlog, hpoll, List.countP_append]
          show _ + d.app.log.countP (·.closes) = 0 + d.app.log.countP (·.closes) + _
          cases hpressed : d.app.buttons.unregisterPressed with
          | false => simp [Buttons.pressed, hpressed]
          | true =>
            simp only [Buttons.pressed, hpressed, if_true, and_self]
            show 1 + _ = _
            omega
        · rw [hlog]
          show (_ ++ d.app.log).filterMap _ = _
          rw [List.filterMap_append]
          split <;> rfl
      -- a client that is not registered yet leaves the buttons as they are
      · refine .of_unasked (.of_log hbuttons hlog) ?_ rfl rfl
        intro button
        cases type with
        | loopTimer =>
          have hcalled' : d.app.client.registerCalled = false := hcalled rfl
          simp [latchInput, hcalled']
        | _ => rfl
    · simp at hb
  | unregisterCallback path token status =>
    simp only [App.handle] at hb
    split at hb
    · rw [Except.ok.injEq] at hb
      have hlatch : ∀ button, d.latchInput button (.run (.unregisterCallback path token status)) =
          none := fun _ => rfl
      cases status with
      -- a status that is neither delivered nor a failure to deliver is ignored
      | other => exact .of_unasked (.of_log (hb ▸ rfl) (hb ▸ rfl)) hlatch rfl rfl
      | _ =>
        refine ⟨?_, ?_, ?_⟩
        · intro button
          rw [hlatch, ← hb]
          rfl
        · rw [hlatch, ← hb]
          simp [App.unregisterCallback, App.record, Call.closes, Input.isNotified, Nat.add_comm]
        · rw [← hb]
          rfl
    · simp at hb
  | clientEvent env e =>
    cases App.handles_of_handle hb with
    | clientEvent _ hevent =>
      exact .of_unasked (App.pdmcEventHandler_unasked hevent) (fun _ => rfl) rfl rfl
  | blinkCallback env type path token =>
    refine .of_unasked ?_ (fun _ => rfl) rfl rfl
    cases App.handles_of_handle hb with
    | blinkIgnored => exact .of_log rfl rfl
    | blinkExecute =>
      exact ⟨rfl, [.postAccepted path token], rfl, by simp [Call.closes, Call.prompt]⟩
  | sendApplicationResponse =>
    refine .of_unasked ?_ (fun _ => rfl) rfl rfl
    cases App.handles_of_handle hb with
    | sendApplicationResponse =>
      exact ⟨rfl, [.deferredResponse d.app.client.executePath d.app.client.executeToken], rfl,
        by simp [Call.closes, Call.prompt]⟩
  | putPattern =>
    refine .of_unasked ?_ (fun _ => rfl) rfl rfl
    cases App.handles_of_handle hb
    exact .of_log rfl rfl
  | putCounter =>
    refine .of_unasked ?_ (fun _ => rfl) rfl rfl
    cases App.handles_of_handle hb
    exact .of_log rfl rfl

/-- **Every step does what it is asked to.** -/
theorem step_asked (hstep : d.step i = .ok t) : d.Asked t i := by
  cases steps_of_step hstep with
  | run => exact run_asked hstep
  | @press pressed buttons =>
    simp only [step, Except.ok.injEq, mk.injEq, App.mk.injEq, true_and, and_true] at hstep
    subst hstep
    refine ⟨?_, ?_, rfl⟩
    · intro button
      have hor : Buttons.pressed ⟨d.app.buttons.resourcePressed || pressed.resourcePressed,
          d.app.buttons.unregisterPressed || pressed.unregisterPressed⟩ button =
          (d.app.buttons.pressed button || pressed.pressed button) := by cases button <;> rfl
      rw [hor]
      cases hpressed : pressed.pressed button with
      | true => simp [latchInput, hpressed]
      | false => simp [latchInput, hpressed]
    -- a press closes nothing by itself
    · have hset : d.latchInput .unregister (.press pressed) ≠ some .poll := by
        simp only [latchInput]
        split <;> simp
      simp [hset, Input.isNotified]
  | status => exact .of_unasked (.of_log rfl rfl) (fun _ => rfl) rfl rfl
  | wakeUpInit => exact .of_unasked (.of_log rfl rfl) (fun _ => rfl) rfl rfl
  | wakeUpAwake _ _ hwake =>
    obtain ⟨client, -, rfl⟩ := App.wakeUp_spec hwake
    exact .of_unasked (.of_log rfl rfl) (fun _ => rfl) rfl rfl
  | wakeUpPaused _ _ hwake =>
    obtain ⟨client, -, rfl⟩ := App.wakeUp_spec hwake
    refine .of_unasked ⟨rfl, [.clientResume], rfl, ?_⟩ (fun _ => rfl) rfl rfl
    simp [Call.closes, Call.prompt]
  | sleepWaits =>
    refine .of_unasked ⟨rfl, [.connectPause, .sleepCallback], rfl, ?_⟩ (fun _ => rfl) rfl rfl
    simp [Call.closes, Call.prompt]
  | sleepReturns =>
    refine .of_unasked ⟨rfl, [.connectPause, .sleepCallback], rfl, ?_⟩ (fun _ => rfl) rfl rfl
    simp [Call.closes, Call.prompt]
  | connects => exact .of_unasked (.of_log rfl rfl) (fun _ => rfl) rfl rfl
  | retries _ hretry =>
    obtain ⟨-, -, rfl⟩ := App.retryInitConnection_eq_ok hretry
    exact .of_unasked (.of_log rfl rfl) (fun _ => rfl) rfl rfl
  | resumes =>
    refine .of_unasked ⟨rfl, [.connectResume d.app.net.getNetworkInterface], rfl, ?_⟩
      (fun _ => rfl) rfl rfl
    simp [Call.closes, Call.prompt]
  | sleeps => exact .of_unasked (.of_log rfl rfl) (fun _ => rfl) rfl rfl
  | @initPdmcClient env =>
    obtain ⟨_, _, hspec⟩ := App.initPdmcClient_spec env d.app
    exact .of_unasked (.of_log (by rw [hspec]) (by rw [hspec])) (fun _ => rfl) rfl rfl

/-- What has been asked for, after every run. -/
theorem run_asked_for {defaultInstance : Option NetworkInterface} {is : List Input}
    (hrun : run step (boot defaultInstance) is = .ok t) :
    (∀ button, t.app.buttons.pressed button =
      (Latch.after (presses button defaultInstance is)).isSet) ∧
    t.app.log.countP (·.closes) = is.countP (·.isNotified) +
      (Latch.after (presses .unregister defaultInstance is)).found ∧
    t.app.log.filterMap (·.prompt) = (is.filterMap (·.unregisterPost)).reverse := by
  refine run_induction (P := fun is (t : Device) => (∀ button, t.app.buttons.pressed button =
      (Latch.after (presses button defaultInstance is)).isSet) ∧
    t.app.log.countP (·.closes) = is.countP (·.isNotified) +
      (Latch.after (presses .unregister defaultInstance is)).found ∧
    t.app.log.filterMap (·.prompt) = (is.filterMap (·.unregisterPost)).reverse) ?_ ?_ hrun
  · refine ⟨?_, rfl, rfl⟩
    intro button
    cases button <;> rfl
  · rintro is d i t hd ⟨hbuttons, hcloses, hprompts⟩ hstep
    have hasked := step_asked hstep
    have hpresses : ∀ button, presses button defaultInstance (is ++ [i]) =
        presses button defaultInstance is ++ (d.latchInput button i).toList :=
      fun button => seen_concat hd hstep
    refine ⟨?_, ?_, ?_⟩
    · intro button
      rw [hasked.buttons, hpresses]
      cases d.latchInput button i with
      | none => simpa using hbuttons button
      | some j =>
        rw [Option.toList_some, Latch.after_concat]
        cases j <;> rfl
    -- a poll closes the client if it finds the flag set, as `found` counts
    · rw [hasked.closes, hpresses, hcloses, List.countP_append, List.countP_singleton,
        hbuttons]
      cases d.latchInput .unregister i with
      | none =>
        simp
        omega
      | some j =>
        rw [Option.toList_some, Latch.after_concat]
        cases j with
        | set =>
          simp [Latch.step]
          omega
        | poll =>
          cases hset : (Latch.after (presses .unregister defaultInstance is)).isSet <;>
            simp [Latch.step, hset] <;> omega
    · rw [hasked.prompts, hprompts, List.filterMap_append, List.reverse_append]
      cases hpost : i.unregisterPost <;> simp [hpost]

end Device

/-- **Every group of presses closes the client once, and so does every answer that has
arrived or been lost**; nothing else does.  Presses are of one group if no client that is to
be registered sees to the buttons in between, and a group that has not been seen to is
remembered.  Each POST to the unregister resource is answered at once, in its turn. -/
theorem device_closes (defaultInstance : Option NetworkInterface) (is : List Input) :
    Always Device.step (.boot defaultInstance) is fun pre d =>
      d.app.log.countP (·.closes) + (d.app.buttons.pressed .unregister).toNat =
        pre.countP (·.isNotified) +
          Latch.groups (Device.presses .unregister defaultInstance pre) ∧
      (d.app.log.filterMap (·.prompt)).reverse = pre.filterMap (·.unregisterPost) := by
  intro pre d _ h
  obtain ⟨hbuttons, hcloses, hprompts⟩ := Device.run_asked_for h
  constructor
  · rw [hcloses, hbuttons, Nat.add_assoc, Latch.after_groups]
  · rw [hprompts, List.reverse_reverse]

end PelionClientLite
