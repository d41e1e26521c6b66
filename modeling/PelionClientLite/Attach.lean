import PelionClientLite.Link
import PelionClientLite.Device

/-!
# Attaching the client to the network

`pdmc_connect_register` and `pdmc_connect_resume` are given the interface that
`get_network_interface` returns at that moment.  Both come after the loop of
`init_connection()` has connected; but for registering, the event loop runs in
between, and for resuming, the callback may still come in.

## Main definitions

* `App.attachments` — the interfaces the client has been attached to.
* `Device.Linked` — the variables of the connection agree, whatever is on the stack.
* `Attaches` — the step attaches the client.

## Main results

* `Device.run_linked` — the variables agree after every run.
* `attachedLive_iff` — **the client is only ever attached to an interface exactly when
  the link is up each time it is attached.**
-/

namespace PelionClientLite

open Machine

/-! ### The connection under the stack -/

namespace Device

variable {d t : Device} {i : Input}

/-- The variables of the connection agree; `connect()` is called on an interface; and
every call that is not on top of the stack is in its dispatch. -/
structure Linked (d : Device) : Prop where
  net : d.app.net.Linked
  connecting : ∀ caller timeoutMs k stack,
    d.stack = .attempt caller timeoutMs (.connect k) :: stack →
      d.app.net.networkInterface.isSome = true
  dispatching : ∀ f ∈ d.stack.tail, f.dispatches = true

/-- Where the top of the stack is not in `connect()`, nothing is asked of it. -/
theorem linked_of_dispatches (hnet : d.app.net.Linked)
    (hstack : ∀ f ∈ d.stack, f.dispatches = true) : d.Linked := by
  refine ⟨hnet, ?_, fun f hf => hstack f (List.mem_of_mem_tail hf)⟩
  intro caller timeoutMs k stack heq
  have hf := hstack (.attempt caller timeoutMs (.connect k)) (by simp [heq])
  simp [Frame.dispatches] at hf

/-- `init_connection()` on top of calls that dispatch. -/
theorem settle_linked (caller : Caller) (timeoutMs : ℤ) (a : App) {stack : List Frame}
    {next : Net × ConnNext} (hstack : ∀ f ∈ stack, f.dispatches = true)
    (hnext : next.1.Connects next.2) : (settle caller timeoutMs a stack next).Linked := by
  refine ⟨hnext.1, ?_, hstack⟩
  intro caller' timeoutMs' k stack' heq
  refine hnext.2 k ?_
  simp only [settle, List.cons.injEq] at heq
  have hframe := heq.1
  cases hn : next.2 with
  | waits p =>
    rw [hn, Frame.ofNext, Frame.attempt.injEq] at hframe
    rw [hframe.2.2]
  | returned b =>
    rw [hn] at hframe
    cases b <;> simp [Frame.ofNext] at hframe

theorem attempt_linked (caller : Caller) (timeoutMs : ℤ) {a : App} {stack : List Frame}
    (hstack : ∀ f ∈ stack, f.dispatches = true) (hnet : a.net.Linked) :
    (attempt caller timeoutMs a stack).Linked :=
  settle_linked caller timeoutMs a hstack (Net.initConnection_connects hnet (-1))

/-- While the event queue is dispatched, every call on the stack dispatches. -/
theorem Linked.dispatches_of_mem (hd : d.Linked) (hdispatch : d.dispatches = true) :
    ∀ f ∈ d.stack, f.dispatches = true := by
  obtain ⟨a, stack⟩ := d
  cases stack with
  | nil => simp
  | cons top stack =>
    intro f hf
    rcases List.mem_cons.mp hf with htop | hbelow
    · rw [htop]
      exact hdispatch
    · exact hd.dispatching f hbelow

/-- What is under the top of the stack dispatches. -/
theorem Linked.dispatches_of_tail (hd : d.Linked) {f : Frame} {stack : List Frame}
    (hstack : d.stack = f :: stack) : ∀ g ∈ stack, g.dispatches = true := by
  have h := hd.dispatching
  rw [hstack] at h
  exact h

/-- Every step keeps the variables of the connection in agreement. -/
theorem step_linked (h : d.step i = .ok t) (hd : d.Linked) : t.Linked := by
  cases steps_of_step h with
  | @status event status hlisten =>
    refine ⟨hd.net.networkStatusCallback hlisten event status, ?_, hd.dispatching⟩
    intro caller timeoutMs k stack hstack
    rw [Net.networkStatusCallback_networkInterface]
    exact hd.connecting caller timeoutMs k stack hstack
  | press => exact ⟨hd.net, hd.connecting, hd.dispatching⟩
  | run hdispatch hhandles =>
    refine linked_of_dispatches ?_ (hd.dispatches_of_mem hdispatch)
    rw [(Local.handles hhandles).net]
    exact hd.net
  | wakeUpInit hdispatch => exact linked_of_dispatches hd.net (hd.dispatches_of_mem hdispatch)
  | wakeUpAwake hdispatch _ hwake =>
    obtain ⟨client, -, rfl⟩ := App.wakeUp_spec hwake
    exact linked_of_dispatches hd.net (hd.dispatches_of_mem hdispatch)
  | wakeUpPaused hdispatch _ hwake =>
    obtain ⟨client, -, rfl⟩ := App.wakeUp_spec hwake
    exact attempt_linked _ _ (hd.dispatches_of_mem hdispatch) hd.net
  | sleepWaits hdispatch =>
    refine ⟨hd.net, ?_, hd.dispatches_of_mem hdispatch⟩
    intro caller timeoutMs k stack hstack
    simp at hstack
  | sleepReturns hdispatch => exact linked_of_dispatches hd.net (hd.dispatches_of_mem hdispatch)
  | connects hstack hconn =>
    have hbelow := hd.dispatches_of_tail hstack
    refine settle_linked _ _ _ hbelow ?_
    refine Net.connStep_connects hd.net ?_ hconn
    intro k hk
    rw [hk] at hstack
    exact hd.connecting _ _ k _ hstack
  | retries hstack hretry =>
    obtain ⟨-, -, ha⟩ := App.retryInitConnection_eq_ok hretry
    subst ha
    have hbelow := hd.dispatches_of_tail hstack
    exact attempt_linked _ _ hbelow hd.net
  | resumes hstack => exact linked_of_dispatches hd.net (hd.dispatches_of_tail hstack)
  | sleeps hstack =>
    have hnet := Net.closeStep_linked hd.net
    exact linked_of_dispatches (hnet _) (hd.dispatches_of_tail hstack)
  | @initPdmcClient env stack hstack =>
    obtain ⟨counter, registry, hspec⟩ := App.initPdmcClient_spec env d.app
    refine linked_of_dispatches ?_ ?_
    · rw [hspec]
      exact hd.net
    · intro f hf
      rcases List.mem_cons.mp hf with htop | hbelow
      · rw [htop]
        rfl
      · exact hd.dispatches_of_tail hstack f hbelow

theorem boot_linked (defaultInstance : Option NetworkInterface) :
    (boot defaultInstance).Linked := by
  refine attempt_linked _ _ (by simp) ?_
  exact ⟨by simp [App.enterInitConnection], by simp [App.enterInitConnection],
    by simp [App.enterInitConnection], by simp [App.enterInitConnection], rfl⟩

/-- **The variables of the connection agree after every run.** -/
theorem run_linked {defaultInstance : Option NetworkInterface} {is : List Input}
    (hrun : run step (boot defaultInstance) is = .ok t) : t.Linked :=
  run_invariant (fun _ _ _ h hd => step_linked h hd) hrun (boot_linked defaultInstance)

end Device

/-! ### The attachments -/

/-- The interface the call attaches the client to. -/
def Call.attached : Call → Option (Option NetworkInterface)
  | .connectRegister iface => some iface
  | .connectResume iface => some iface
  | _ => none

/-- The interfaces the client has been attached to, newest first. -/
def App.attachments (a : App) : List (Option NetworkInterface) := a.log.filterMap Call.attached

/-- The handler attaches the client. -/
def Handler.attaches : Handler → Bool
  | .clientEvent _ e => e.isSetupCompleted
  | _ => false

namespace App

variable {a b : App}

theorem attachments_append (calls : List Call) (hlog : b.log = calls ++ a.log)
    (hcalls : ∀ c ∈ calls, c.attached = none) : b.attachments = a.attachments := by
  rw [attachments, hlog, Call.filterMap_append hcalls, attachments]

/-- Only SETUP_COMPLETED attaches the client, of all handlers. -/
theorem Handles.attachments {h : Handler} (hb : a.Handles h b) :
    b.attachments =
      if h.attaches then a.net.getNetworkInterface :: a.attachments else a.attachments := by
  cases hb with
  | @clientEvent env e _ _ h =>
    rcases pdmcEventHandler_spec h with ⟨he, h⟩ | ⟨-, rfl⟩
    · have hno : e.isSetupCompleted = false := ClientEvent.isSetupCompleted_of_isRegistered he
      obtain ⟨_, _, _, _, hb⟩ := pdmcClientRegistered_keeps h
      rw [hb]
      simp only [Handler.attaches, hno, Bool.false_eq_true, if_false]
      rfl
    · cases he : e.isSetupCompleted with
      | false =>
        simp only [Handler.attaches, App.attachments, afterEvent, he, Bool.false_eq_true, if_false]
      | true =>
        simp only [Handler.attaches, App.attachments, afterEvent, he, if_true]
        rfl
  | taskletEvent _ _ hclicked =>
    obtain ⟨_, _, _, calls, rfl, hcalls⟩ := hclicked
    apply attachments_append calls rfl
    intro c hc
    rw [hcalls c hc]
    rfl
  | @unregisterCallback _ _ _ calls hcalls =>
    apply attachments_append calls rfl
    intro c hc
    rcases hcalls c hc with rfl | rfl <;> rfl
  | _ => rfl

end App

/-- The step attaches the client: SETUP_COMPLETED is handled, or `pdmc_client_resume`
goes on after its `init_connection()`. -/
def Attaches (d : Device) (i : Input) : Prop :=
  (∃ h, i = .run h ∧ h.attaches = true ∧ d.dispatches = true ∧
    d.app.client.initialised = true) ∨
  (i = .driver .proceed ∧ ∃ stack, d.stack = .connected .pdmcClientResume :: stack)

namespace Device

variable {d t : Device} {i : Input}

/-- A step that attaches the client can be taken. -/
theorem step_isOk_of_attaches (h : Attaches d i) : ∃ t, d.step i = .ok t := by
  rcases h with ⟨h, rfl, hattaches, hdispatch, hinit⟩ | ⟨rfl, stack, hstack⟩
  · cases h with
    | clientEvent env e =>
      have hhandle : d.app.handle (.clientEvent env e) = .ok d.app.registerPdmcClient := by
        obtain ⟨type, id⟩ := e
        cases type with
        | startup => simp [Handler.attaches, ClientEvent.isSetupCompleted] at hattaches
        | code errorCode =>
          cases id with
          | setupCompleted => simp [App.handle, hinit, App.pdmcEventHandler]
          | _ => simp [Handler.attaches, ClientEvent.isSetupCompleted] at hattaches
      simp only [step, hdispatch, if_true, hhandle, ok_bind, pure_eq_ok]
      exact ⟨_, rfl⟩
    | _ => simp [Handler.attaches] at hattaches
  · simp only [step, goOn, hstack]
    exact ⟨_, rfl⟩

/-- What the client is attached to is what `get_network_interface` returns. -/
theorem step_attachments (h : d.step i = .ok t) :
    (¬ Attaches d i ∧ t.app.attachments = d.app.attachments) ∨
      (Attaches d i ∧
        t.app.attachments = d.app.net.getNetworkInterface :: d.app.attachments) := by
  have hnot : (∀ h, i ≠ .run h) →
      (i = .driver .proceed → ∀ stack, d.stack ≠ .connected .pdmcClientResume :: stack) →
        ¬ Attaches d i := by
    intro hrun hstack hattaches
    rcases hattaches with ⟨h, heq, -⟩ | ⟨heq, stack, hresume⟩
    · exact hrun h heq
    · exact hstack heq stack hresume
  cases steps_of_step h with
  | @run handler a hdispatch hhandles =>
    have hattachments := hhandles.attachments
    cases hh : handler.attaches with
    | false =>
      rw [hh] at hattachments
      refine Or.inl ⟨?_, hattachments⟩
      intro h
      rcases h with ⟨other, heq, hattaches, -⟩ | ⟨heq, -⟩
      · rw [Input.run.injEq] at heq
        rw [← heq, hh] at hattaches
        exact absurd hattaches (by decide)
      · simp at heq
    | true =>
      rw [hh] at hattachments
      have hinit : d.app.client.initialised = true := by
        cases hhandles with
        | clientEvent hinit => exact hinit
        | _ => simp [Handler.attaches] at hh
      exact Or.inr ⟨Or.inl ⟨handler, rfl, hh, hdispatch, hinit⟩, hattachments⟩
  | resumes hstack => exact Or.inr ⟨Or.inr ⟨rfl, _, hstack⟩, rfl⟩
  | wakeUpAwake _ _ hwake =>
    obtain ⟨client, -, rfl⟩ := App.wakeUp_spec hwake
    exact Or.inl ⟨hnot (by simp) (by simp), rfl⟩
  | wakeUpPaused _ _ hwake =>
    obtain ⟨client, -, rfl⟩ := App.wakeUp_spec hwake
    exact Or.inl ⟨hnot (by simp) (by simp), rfl⟩
  | connects hstack => exact Or.inl ⟨hnot (by simp) (by simp [hstack]), rfl⟩
  | retries hstack hretry =>
    obtain ⟨-, -, rfl⟩ := App.retryInitConnection_eq_ok hretry
    exact Or.inl ⟨hnot (by simp) (by simp [hstack]), rfl⟩
  | @initPdmcClient env =>
    obtain ⟨counter, registry, hspec⟩ := App.initPdmcClient_spec env d.app
    refine Or.inl ⟨hnot (by simp) (by simp), ?_⟩
    rw [hspec]
    rfl
  | _ => exact Or.inl ⟨hnot (by simp) (by simp), rfl⟩

end Device

/-! ### The client is attached to a live interface -/

/-- The client has only been attached to interfaces that are not NULL. -/
def AttachedLive (d : Device) : Prop := ∀ iface ∈ d.app.attachments, iface.isSome = true

instance (d : Device) : Decidable (AttachedLive d) :=
  inferInstanceAs (Decidable (∀ iface ∈ d.app.attachments, iface.isSome = true))

/-- When the client is attached, the link was last heard of as up. -/
def LinkUpWhenAttached (d : Device) (i : Input) : Prop :=
  Attaches d i → d.app.net.linkUp = true

/-- **The client is only ever attached to a live interface exactly when the link is up
each time it is attached**: nothing has taken it down since it last came up. -/
theorem attachedLive_iff (defaultInstance : Option NetworkInterface) (is : List Input) :
    (Always Device.step (.boot defaultInstance) is fun _ d => AttachedLive d) ↔
      EachStep Device.step (.boot defaultInstance) is fun _ d i => LinkUpWhenAttached d i := by
  refine always_iff (fun _ d => d.Linked ∧ AttachedLive d) ?_ ?_ ?_ ?_ ?_
  · have hnone : (Device.boot defaultInstance).app.attachments = [] := rfl
    refine ⟨Device.boot_linked defaultInstance, ?_⟩
    intro iface hmem
    rw [hnone] at hmem
    exact absurd hmem List.not_mem_nil
  · intro pre d i t _ hinv hC h
    obtain ⟨hlinked, hlive⟩ := hinv
    refine ⟨Device.step_linked h hlinked, ?_⟩
    rcases Device.step_attachments h with ⟨-, hsame⟩ | ⟨hattach, hnew⟩
    · rw [AttachedLive, hsame]
      exact hlive
    · intro iface hmem
      rw [hnew, List.mem_cons] at hmem
      rcases hmem with hfirst | hmem
      · have hup : d.app.net.linkUp = true := hC hattach
        rw [hfirst]
        exact hlinked.net.getNetworkInterface_isSome_iff.mpr hup
      · exact hlive iface hmem
  · intro pre d h
    exact h.2
  · intro pre d i t _ hinv h hlive hattach
    obtain ⟨hlinked, -⟩ := hinv
    rcases Device.step_attachments h with ⟨hno, -⟩ | ⟨-, hnew⟩
    · exact absurd hattach hno
    · have hmem : d.app.net.getNetworkInterface ∈ t.app.attachments := by
        rw [hnew]
        exact List.mem_cons_self
      exact hlinked.net.getNetworkInterface_isSome_iff.mp (hlive _ hmem)
  · intro pre d i _ _ hstop hattach
    obtain ⟨t, ht⟩ := Device.step_isOk_of_attaches hattach
    exact absurd ht (hstop t)

/-- The link goes down after the client has been started and before it registers. -/
theorem not_attachedLive_down_before_setup :
    ¬ Always Device.step (.boot (some ⟨0⟩))
        (Device.startUp ++ [.status .connectionStatusChange .disconnected,
          .run (.clientEvent {} ⟨.code .none, .setupCompleted⟩)])
        fun _ d => AttachedLive d := by
  intro h
  exact absurd (h _ _ List.prefix_rfl rfl) (by decide)

end PelionClientLite
