import PelionClientLite.Nesting

/-!
# Stranded dispatches

When a wake-up resumes the client inside the dispatch of an `init_connection`, the new call
clears `dispatch_called`.  The break that the outer dispatch waits for is then never
requested; with the interface connected and all calls on top of it returned, it goes on
dispatching for ever, in place of `main`.  Two breaks that fall into one strand a dispatch
too, and so does entering a dispatch with `dispatch_called` still set.

## Main definitions

* `Device.stranded` — the dispatches on the stack that no break can come for any more.
* `Strands` — the steps that strand a dispatch.

## Main results

* `Device.step_stranded` — each of those steps strands one dispatch, and no other step
  strands any, or brings one back.
* `device_strands_iff` — **nothing is stranded exactly when no such step is taken, and each
  such step strands one dispatch for good.**
-/

namespace PelionClientLite

open Machine

/-! ### Breaks lost -/

/-- `connect()` has returned, and the dispatch is entered next. -/
def ConnPoint.isConnected : ConnPoint → Bool
  | .connected _ => true
  | _ => false

theorem ConnPoint.exists_of_isConnected {p : ConnPoint} (h : p.isConnected = true) :
    ∃ k, p = .connected k := by
  cases p with
  | connected k => exact ⟨k, rfl⟩
  | _ => simp [isConnected] at h

namespace Net

variable {n n' : Net}

/-- A break is to come, and another has been requested. -/
def BothDue (n : Net) : Prop := n.dispatchCalled = true ∧ n.breakRequested = true

instance (n : Net) : Decidable n.BothDue := inferInstanceAs (Decidable (_ ∧ _))

/-- Two breaks that are due fall into one. -/
theorem breakDispatch_breaksDue (e : NetworkEvent) (n : Net) :
    n.breaksDue = (n.breakDispatch.sendNetworkEvent e).breaksDue +
      if n.BothDue then 1 else 0 := by
  rw [(SameDispatch.sendNetworkEvent e n.breakDispatch).breaksDue]
  unfold breakDispatch
  split
  · next hcalled =>
    rw [breaksDue, hcalled]
    cases hbreak : n.breakRequested with
    | false =>
      rw [if_neg (by simp [BothDue, hbreak])]
      rfl
    -- the break requested now falls into the one requested before
    | true =>
      rw [if_pos ⟨hcalled, hbreak⟩]
      rfl
  · next hcalled =>
    rw [if_neg fun hboth => hcalled hboth.1]
    rfl

/-- What the callback leaves of the breaks that are due. -/
theorem networkStatusCallback_breaksDue_eq (event : NsapiEvent) (status : NsapiStatus) (n : Net) :
    n.breaksDue = (n.networkStatusCallback event status).breaksDue +
      if (NetEntry.status event status).isTerminal = true ∧ n.BothDue then 1 else 0 := by
  have hrecord : n.SameDispatch (n.record (.status event status)) :=
    SameDispatch.record n (by simp)
  -- a status that is not terminal
  have hother : ∀ {m : Net}, n.SameDispatch m → (NetEntry.status event status).isTerminal = false →
      n.breaksDue = m.breaksDue +
        if (NetEntry.status event status).isTerminal = true ∧ n.BothDue then 1 else 0 := by
    intro m hm hno
    rw [if_neg (by simp [hno]), hm.breaksDue]
    rfl
  cases event with
  | other code => exact hother hrecord rfl
  | connectionStatusChange =>
    cases status with
    | globalUp =>
      simp only [NetEntry.isTerminal, true_and]
      exact breakDispatch_breaksDue .globalUp { n.record _ with interfaceConnected := true }
    | disconnected =>
      simp only [NetEntry.isTerminal, true_and]
      exact breakDispatch_breaksDue .disconnected { n.record _ with interfaceConnected := false }
    | other code => exact hother hrecord rfl
    | localUp => exact hother (hrecord.trans (SameDispatch.sendNetworkEvent _ _)) rfl
    | connecting => exact hother (hrecord.trans (SameDispatch.sendNetworkEvent _ _)) rfl
    | errorUnsupported => exact hother (hrecord.trans (SameDispatch.sendNetworkEvent _ _)) rfl

/-- A call of `init_connection` that finds an interface takes `dispatch_called` from the
dispatch that has set it. -/
theorem initConnection_breaksDue_eq (id : ℤ) (n : Net) :
    n.breaksDue = (n.initConnection id).1.breaksDue +
      if n.defaultInstance.isSome = true ∧ n.dispatchCalled = true then 1 else 0 := by
  unfold initConnection
  dsimp only
  split
  · next hnone =>
    rw [if_neg (by simp [hnone])]
    rfl
  · next iface hsome =>
    rw [breaksDue, hsome]
    cases hcalled : n.dispatchCalled with
    | false =>
      rw [if_neg (by simp)]
      show 0 + n.breakRequested.toNat = 0 + n.breakRequested.toNat + 0
      omega
    | true =>
      rw [if_pos ⟨rfl, rfl⟩]
      show 1 + n.breakRequested.toNat = 0 + n.breakRequested.toNat + 1
      omega

/-- A dispatch that is entered has a break to come, but not where `dispatch_called` was
still set; and one that is left has had its break. -/
theorem connStep_breaksDue_eq {p : ConnPoint} {r : DriverInput} {next : ConnNext}
    (caller : Caller) (timeoutMs : ℤ) (h : n.connStep p r = .ok (n', next)) :
    (Frame.ofNext caller timeoutMs next).awaitsBreak.toNat + n.breaksDue =
      (Frame.attempt caller timeoutMs p).awaitsBreak.toNat + n'.breaksDue +
        if p.isConnected = true ∧ n.dispatchCalled = true then 1 else 0 := by
  -- from `connected` a dispatch is entered; from no other wait is one
  by_cases hp : p.isConnected = true
  · obtain ⟨k, rfl⟩ := ConnPoint.exists_of_isConnected hp
    cases connSteps_of_connStep h with
    | dispatches =>
      show 1 + n.breaksDue = 0 + (1 + n.breakRequested.toNat) + _
      rw [breaksDue]
      cases hcalled : n.dispatchCalled with
      | false =>
        rw [if_neg (by simp)]
        show 1 + (0 + n.breakRequested.toNat) = _
        omega
      | true =>
        rw [if_pos ⟨hp, rfl⟩]
        show 1 + (1 + n.breakRequested.toNat) = _
        omega
  · rw [if_neg fun hboth => hp hboth.1]
    have hnext : (Frame.ofNext caller timeoutMs next).awaitsBreak = false := by
      cases hn : next with
      | returned b => cases b <;> rfl
      | waits q =>
        cases q with
        | dispatch j =>
          subst hn
          obtain ⟨rfl, -⟩ := connStep_dispatch h
          exact absurd rfl hp
        | _ => rfl
    rw [hnext]
    rcases connStep_sameDispatch h with ⟨hne, hsame⟩ | ⟨k, rfl, -⟩ | ⟨k, rfl, hbreak, rfl⟩
    · have hno : (Frame.attempt caller timeoutMs p).awaitsBreak = false := by
        cases p <;> first | rfl | exact absurd rfl (hne _)
      rw [hno, hsame.breaksDue]
      rfl
    · exact absurd rfl hp
    · show 0 + n.breaksDue = 1 + (n.dispatchCalled.toNat + 0) + 0
      rw [breaksDue, hbreak]
      show 0 + (n.dispatchCalled.toNat + 1) = _
      omega

end Net

/-! ### What strands a dispatch -/

/-- The steps that strand a dispatch: a break falls together with another; a call of
`init_connection` clears `dispatch_called` for one below it; or a dispatch is entered with
`dispatch_called` still set. -/
inductive Strands (d : Device) : Input → Prop where
  | merges {event : NsapiEvent} {status : NsapiStatus}
      (hterminal : (NetEntry.status event status).isTerminal = true)
      (hboth : d.app.net.BothDue) : Strands d (.status event status)
  | resumes {env : Env} (hpaused : d.app.client.paused = true)
      (hdefault : d.app.net.defaultInstance.isSome = true)
      (hcalled : d.app.net.dispatchCalled = true) : Strands d (.wakeUp env .wake)
  | retries {caller : Caller} {timeoutMs : ℤ} {stack : List Frame}
      (hstack : d.stack = .backOff caller timeoutMs :: stack)
      (hdefault : d.app.net.defaultInstance.isSome = true)
      (hcalled : d.app.net.dispatchCalled = true) : Strands d (.driver .proceed)
  | dispatches {caller : Caller} {timeoutMs : ℤ} {k : ℕ} {stack : List Frame}
      (hstack : d.stack = .attempt caller timeoutMs (.connected k) :: stack)
      (hcalled : d.app.net.dispatchCalled = true) : Strands d (.driver .proceed)

namespace Device

variable {d t : Device} {i : Input} {pre : List Input}

/-- The dispatches of `init_connection` on the stack that no break can come for any more:
there are more of them than breaks that are requested or may still be.  A dispatch for which
the break may still be requested is not among them, even if the status it waits for has
been missed. -/
def stranded (d : Device) : ℕ := d.stack.countP Frame.awaitsBreak - d.app.net.breaksDue

theorem stranded_eq {n : ℕ} (hd : d.Nested pre) {pre' : List Input} (ht : t.Nested pre')
    (h : t.stack.countP Frame.awaitsBreak + d.app.net.breaksDue =
      d.stack.countP Frame.awaitsBreak + t.app.net.breaksDue + n) :
    t.stranded = d.stranded + n := by
  have hbefore := hd.breaks
  have hafter := ht.breaks
  unfold stranded
  omega

theorem countP_awaitsBreak (f : Frame) (stack : List Frame) :
    (f :: stack).countP Frame.awaitsBreak =
      f.awaitsBreak.toNat + stack.countP Frame.awaitsBreak := by
  rw [List.countP_cons, Nat.add_comm]
  cases f.awaitsBreak <;> rfl

/-- `init_connection()` calls `init_connection(-1)`, on top of what has no break to wait for. -/
theorem attempt_breaks (caller : Caller) (timeoutMs : ℤ) (a : App) (stack : List Frame) :
    (Device.attempt caller timeoutMs a stack).stack.countP Frame.awaitsBreak + a.net.breaksDue =
      stack.countP Frame.awaitsBreak +
        (Device.attempt caller timeoutMs a stack).app.net.breaksDue +
        if a.net.defaultInstance.isSome = true ∧ a.net.dispatchCalled = true then 1 else 0 := by
  have hdue := Net.initConnection_breaksDue_eq (-1) a.net
  have hno := Net.initConnection_awaitsBreak caller timeoutMs (-1) a.net
  show (Frame.ofNext caller timeoutMs (a.net.initConnection (-1)).2 :: stack).countP _ + _ =
    _ + (a.net.initConnection (-1)).1.breaksDue + _
  rw [List.countP_cons_of_neg (by simp [hno])]
  omega

/-- **The steps that strand a dispatch strand one**, and no other step does, or brings one
back. -/
theorem step_stranded (hd : d.Nested pre) (h : d.step i = .ok t) :
    Strands d i ∧ t.stranded = d.stranded + 1 ∨ ¬ Strands d i ∧ t.stranded = d.stranded := by
  have ht : t.Nested (pre ++ [i]) := step_nested h hd
  -- a step that leaves the dispatches and their breaks
  have hkeeps : t.stack.countP Frame.awaitsBreak = d.stack.countP Frame.awaitsBreak →
      t.app.net.breaksDue = d.app.net.breaksDue → t.stranded = d.stranded := by
    intro hcount hdue
    refine stranded_eq (n := 0) hd ht ?_
    rw [hcount, hdue]
    rfl
  cases steps_of_step h with
  | @status event status hlisten =>
    have hdue := Net.networkStatusCallback_breaksDue_eq event status d.app.net
    -- a status strands a dispatch where two breaks fall into one
    by_cases hmerges : (NetEntry.status event status).isTerminal = true ∧ d.app.net.BothDue
    · rw [if_pos hmerges] at hdue
      refine Or.inl ⟨.merges hmerges.1 hmerges.2, stranded_eq hd ht ?_⟩
      show d.stack.countP Frame.awaitsBreak + _ = d.stack.countP Frame.awaitsBreak + _ + 1
      rw [hdue]
      rfl
    · rw [if_neg hmerges] at hdue
      refine Or.inr ⟨?_, hkeeps rfl hdue.symm⟩
      intro hstrands
      cases hstrands with
      | merges hterminal hboth => exact hmerges ⟨hterminal, hboth⟩
  | press => exact Or.inr ⟨by rintro ⟨⟩, hkeeps rfl rfl⟩
  | run _ hhandles =>
    exact Or.inr ⟨by rintro ⟨⟩, hkeeps rfl (congrArg Net.breaksDue (Local.handles hhandles).net)⟩
  | wakeUpInit => exact Or.inr ⟨by rintro ⟨⟩, hkeeps rfl rfl⟩
  | wakeUpAwake _ _ hwake hawake =>
    obtain ⟨_, _, _, rfl⟩ := App.wakeUp_keeps hwake
    have hno : d.app.client.paused = false := hawake
    refine Or.inr ⟨?_, hkeeps rfl rfl⟩
    intro hstrands
    cases hstrands with
    | resumes hpaused => exact absurd (hno.symm.trans hpaused) (by decide)
  | wakeUpPaused _ _ hwake hpaused =>
    obtain ⟨_, _, _, rfl⟩ := App.wakeUp_keeps hwake
    -- the new call clears `dispatch_called`, whoever has set it
    have hbreaks := fun a => attempt_breaks .pdmcClientResume 5000 a d.stack
    by_cases hstrands : d.app.net.defaultInstance.isSome = true ∧ d.app.net.dispatchCalled = true
    · refine Or.inl ⟨.resumes hpaused hstrands.1 hstrands.2, stranded_eq hd ht ?_⟩
      exact (hbreaks _).trans (congrArg _ (if_pos hstrands))
    · refine Or.inr ⟨?_, stranded_eq (n := 0) hd ht ?_⟩
      · intro h
        cases h with
        | resumes _ hdefault hcalled => exact hstrands ⟨hdefault, hcalled⟩
      · exact (hbreaks _).trans (congrArg _ (if_neg hstrands))
  | sleepWaits =>
    refine Or.inr ⟨by rintro ⟨⟩, hkeeps ?_ rfl⟩
    exact List.countP_cons_of_neg (by simp [Frame.awaitsBreak])
  | sleepReturns => exact Or.inr ⟨by rintro ⟨⟩, hkeeps rfl rfl⟩
  | @connects caller timeoutMs p stack r next hstack hconn =>
    obtain ⟨n, next⟩ := next
    have hdue := Net.connStep_breaksDue_eq caller timeoutMs hconn
    -- the dispatches and the breaks change together, but for a break that is lost
    have hbreaks : (settle caller timeoutMs d.app stack (n, next)).stack.countP Frame.awaitsBreak +
        d.app.net.breaksDue = d.stack.countP Frame.awaitsBreak + n.breaksDue +
          if p.isConnected = true ∧ d.app.net.dispatchCalled = true then 1 else 0 := by
      show (Frame.ofNext caller timeoutMs next :: stack).countP Frame.awaitsBreak + _ = _
      rw [hstack, countP_awaitsBreak, countP_awaitsBreak]
      omega
    by_cases hstrands : p.isConnected = true ∧ d.app.net.dispatchCalled = true
    · obtain ⟨k, rfl⟩ := ConnPoint.exists_of_isConnected hstrands.1
      have hproceed : r = .proceed := by
        cases Net.connSteps_of_connStep hconn
        rfl
      subst hproceed
      refine Or.inl ⟨.dispatches hstack hstrands.2, stranded_eq hd ht ?_⟩
      exact hbreaks.trans (congrArg _ (if_pos hstrands))
    · refine Or.inr ⟨?_, stranded_eq (n := 0) hd ht ?_⟩
      · intro h
        cases h with
        | retries hback => simp [hstack] at hback
        | dispatches hat hcalled =>
          rw [hstack, List.cons.injEq, Frame.attempt.injEq] at hat
          exact hstrands ⟨hat.1.2.2 ▸ rfl, hcalled⟩
      · exact hbreaks.trans (congrArg _ (if_neg hstrands))
  | @retries caller timeoutMs timeoutMs' stack a hstack hretry =>
    obtain ⟨-, -, rfl⟩ := App.retryInitConnection_eq_ok hretry
    have hbreaks := attempt_breaks caller timeoutMs' { d.app with client := { d.app.client with
      pdmcClientErrorCount := d.app.client.pdmcClientErrorCount + 1 } } stack
    have hcount : d.stack.countP Frame.awaitsBreak = stack.countP Frame.awaitsBreak := by
      rw [hstack, List.countP_cons_of_neg (by simp [Frame.awaitsBreak])]
    rw [← hcount] at hbreaks
    by_cases hstrands : d.app.net.defaultInstance.isSome = true ∧ d.app.net.dispatchCalled = true
    · refine Or.inl ⟨.retries hstack hstrands.1 hstrands.2, stranded_eq hd ht ?_⟩
      exact hbreaks.trans (congrArg _ (if_pos hstrands))
    · refine Or.inr ⟨?_, stranded_eq (n := 0) hd ht ?_⟩
      · intro h
        cases h with
        | retries _ hdefault hcalled => exact hstrands ⟨hdefault, hcalled⟩
        | dispatches hat => simp [hstack] at hat
      · exact hbreaks.trans (congrArg _ (if_neg hstrands))
  | @resumes stack hstack =>
    refine Or.inr ⟨?_, hkeeps ?_ rfl⟩
    · intro hstrands
      cases hstrands with
      | retries hback => simp [hstack] at hback
      | dispatches hat => simp [hstack] at hat
    · rw [hstack, List.countP_cons_of_neg (by simp [Frame.awaitsBreak])]
  | @sleeps stack err hstack =>
    refine Or.inr ⟨by rintro ⟨⟩, hkeeps ?_ ?_⟩
    · rw [hstack, List.countP_cons_of_neg (by simp [Frame.awaitsBreak])]
    · show (d.app.net.closeStep err).1.breaksDue = _
      unfold Net.closeStep
      split <;> rfl
  | @initPdmcClient env stack hstack =>
    obtain ⟨counter, registry, hspec⟩ := App.initPdmcClient_spec env d.app
    refine Or.inr ⟨by rintro ⟨⟩, hkeeps ?_ ?_⟩
    · rw [hstack, List.countP_cons_of_neg (by simp [Frame.awaitsBreak]),
        List.countP_cons_of_neg (by simp [Frame.awaitsBreak])]
    · rw [hspec]

/-- **No step brings a stranded dispatch back.** -/
theorem stranded_le_of_run {is : List Input} (hd : d.Nested pre) (hrun : run step d is = .ok t) :
    d.stranded ≤ t.stranded := by
  have hknown : (∃ pre, t.Nested pre) ∧ d.stranded ≤ t.stranded := by
    -- by induction on the run, along with what is known of the stack
    refine run_invariant (I := fun t => (∃ pre, t.Nested pre) ∧ d.stranded ≤ t.stranded) ?_ hrun
      ⟨⟨pre, hd⟩, Nat.le_refl _⟩
    rintro u i v h ⟨⟨pre, hu⟩, hle⟩
    refine ⟨⟨pre ++ [i], step_nested h hu⟩, hle.trans ?_⟩
    rcases step_stranded hu h with ⟨-, hmore⟩ | ⟨-, hsame⟩
    · exact hmore ▸ Nat.le_succ _
    · exact hsame.ge
  exact hknown.2

/-- In the loop of `main` nothing is stranded. -/
theorem stranded_of_mainLoop (h : d.stack = [.mainLoop]) : d.stranded = 0 := by
  rw [stranded, h]
  exact Nat.zero_sub _

theorem boot_stranded (defaultInstance : Option NetworkInterface) :
    (boot defaultInstance).stranded = 0 := by
  have hno := Net.initConnection_awaitsBreak .main 5000 (-1) { defaultInstance }
  have hcount : (boot defaultInstance).stack.countP Frame.awaitsBreak = 0 :=
    List.countP_cons_of_neg (by simp [App.enterInitConnection, hno])
  rw [stranded, hcount, Nat.zero_sub]

end Device

/-- Nothing is stranded exactly when no step strands a dispatch. -/
theorem always_stranded_eq_zero_iff (defaultInstance : Option NetworkInterface)
    (is : List Input) :
    (Always Device.step (.boot defaultInstance) is fun _ d => d.stranded = 0) ↔
      EachStep Device.step (.boot defaultInstance) is fun _ d i =>
        ∀ t, d.step i = .ok t → ¬ Strands d i := by
  refine always_iff (fun pre d => d.Nested pre ∧ d.stranded = 0) ?_ ?_ ?_ ?_ ?_
  · exact ⟨Device.boot_nested defaultInstance, Device.boot_stranded defaultInstance⟩
  · intro pre d i t _ hd hC h
    obtain ⟨hnested, hnone⟩ := hd
    refine ⟨Device.step_nested h hnested, ?_⟩
    rcases Device.step_stranded hnested h with ⟨hstrands, -⟩ | ⟨-, hsame⟩
    · exact absurd hstrands (hC t h)
    · exact hsame.trans hnone
  · exact fun pre d hd => hd.2
  · intro pre d i t _ hd h ht u hu hstrands
    rcases Device.step_stranded hd.1 h with ⟨-, hmore⟩ | ⟨hno, -⟩
    · omega
    · exact hno hstrands
  · intro pre d i _ _ hstop t h
    exact absurd h (hstop t)

/-- **Nothing is stranded exactly when no step strands a dispatch**; a step that does
strands one, and no other step strands any, or brings one back. -/
theorem device_strands_iff (defaultInstance : Option NetworkInterface) (is : List Input) :
    ((Always Device.step (.boot defaultInstance) is fun _ d => d.stranded = 0) ↔
      EachStep Device.step (.boot defaultInstance) is fun _ d i =>
        ∀ t, d.step i = .ok t → ¬ Strands d i) ∧
    EachStep Device.step (.boot defaultInstance) is fun _ d i => ∀ t, d.step i = .ok t →
      Strands d i ∧ t.stranded = d.stranded + 1 ∨ ¬ Strands d i ∧ t.stranded = d.stranded := by
  refine ⟨always_stranded_eq_zero_iff defaultInstance is, ?_⟩
  intro pre i d _ hd t h
  exact Device.step_stranded (Device.run_nested hd) h

/-- A client that sleeps and is resumed again while it is being resumed. -/
example : ∃ d, run Device.step (.boot (some ⟨0⟩))
    (Device.startUp ++ [.run (.clientEvent {} ⟨.code .none, .objectRegistered⟩),
      .sleep, .driver (.disconnectReturns .ok), .wakeUp {} .wake,
      .driver (.setBlockingReturns .ok), .driver (.connectReturns .ok), .driver .proceed,
      .sleep, .driver (.disconnectReturns .ok), .wakeUp {} .wake]) = .ok d ∧ d.stranded = 1 :=
  ⟨_, rfl, rfl⟩

end PelionClientLite
