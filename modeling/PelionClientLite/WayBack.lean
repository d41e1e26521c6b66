import PelionClientLite.Attempts
import PelionClientLite.Stranded

/-!
# The way back to `main`

Whatever a device is doing, while its interface is open the driver can bring it back to the
loop of `main`: it lets each call on the stack connect, and reports GLOBAL_UP wherever a
break is still to come.  There are two exceptions.  A dispatch that is stranded never
returns; and a connection that fails as the ninth error reboots the device, since no
handler runs any more that could set the count back.

## Main definitions

* `Device.Doomed` — the connection has failed for the last time before the reboot.
* `Device.Known` — what is known between the steps.
* `Device.Returning` — what is kept on the way.
* `Device.toGo` — how long the way is, at most.

## Main results

* `Device.Doomed.step` — a doomed device stays so.
* `Device.Returning.closer` — the next step of the way.
* `device_returns_iff` — **with its interface open, a device can get back to the loop of
  `main` exactly when nothing is stranded and it is not doomed.**
-/

namespace PelionClientLite

open Machine

/-! ### The connection that has failed for the last time -/

namespace Frame

/-- The call of `init_connection(-1)` returns `false`, whatever comes, or has done so. -/
def fails : Frame → Bool
  | .attempt _ _ (.disconnect i) => platformConnectionRetryCount ≤ i
  | .attempt _ _ (.wait i) => platformConnectionRetryCount ≤ i
  | .attempt _ _ (.disconnectBlocking i) => platformConnectionRetryCount ≤ i
  | .attempt _ _ (.waitBlocking i) => platformConnectionRetryCount ≤ i
  | .backOff _ _ => true
  | _ => false

/-- No handler runs in such a call. -/
theorem dispatches_of_fails {f : Frame} (h : f.fails = true) : f.dispatches = false := by
  cases f with
  | attempt caller timeoutMs p => cases p <;> first | rfl | simp [fails] at h
  | backOff => rfl
  | _ => simp [fails] at h

end Frame

namespace Net

variable {n n' : Net}

/-- A call that fails goes on failing. -/
theorem connStep_fails {caller : Caller} {timeoutMs : ℤ} {p : ConnPoint} {r : DriverInput}
    {next : ConnNext} (hfails : (Frame.attempt caller timeoutMs p).fails = true)
    (h : n.connStep p r = .ok (n', next)) : (Frame.ofNext caller timeoutMs next).fails = true := by
  -- past the fifth attempt the `for` loop ends, and `false` is returned
  have hno : ∀ {i}, platformConnectionRetryCount ≤ i → ¬ i + 1 ≤ platformConnectionRetryCount :=
    fun hi => Nat.not_le.mpr (Nat.lt_succ_of_le hi)
  cases connSteps_of_connStep h with
  | disconnects => exact hfails
  | disconnectsBlocking => exact hfails
  | @retries i next h =>
    have hi : platformConnectionRetryCount ≤ i := by simpa [Frame.fails] using hfails
    rw [attempt, if_neg (hno hi), pure_eq_ok, Except.ok.injEq, Prod.mk.injEq] at h
    exact h.2 ▸ rfl
  | @retriesBlocking i next h =>
    have hi : platformConnectionRetryCount ≤ i := by simpa [Frame.fails] using hfails
    rw [attemptBlocking, if_neg (hno hi), pure_eq_ok, Except.ok.injEq, Prod.mk.injEq] at h
    exact h.2 ▸ rfl
  | _ => simp [Frame.fails] at hfails

end Net

namespace Device

variable {d t : Device} {i : Input} {pre : List Input}

/-- The connection on top of the stack fails, and that is the ninth error. -/
def Doomed (d : Device) : Prop :=
  (∃ f stack, d.stack = f :: stack ∧ f.fails = true) ∧
    d.app.client.pdmcClientErrorCount + 1 = maxPdmcClientInitConnectionErrorCount

/-- **A doomed device stays so**, for no handler comes to set the count back. -/
theorem Doomed.step (hd : d.Doomed) (h : d.step i = .ok t) : t.Doomed := by
  obtain ⟨⟨f, stack, hstack, hfails⟩, hcount⟩ := hd
  have hnot : d.dispatches ≠ true := by
    rw [dispatches, hstack]
    simp [Frame.dispatches_of_fails hfails]
  cases steps_of_step h with
  | status => exact ⟨⟨f, stack, hstack, hfails⟩, hcount⟩
  | press => exact ⟨⟨f, stack, hstack, hfails⟩, hcount⟩
  | run hdispatch => exact absurd hdispatch hnot
  | wakeUpInit hdispatch => exact absurd hdispatch hnot
  | wakeUpAwake hdispatch => exact absurd hdispatch hnot
  | wakeUpPaused hdispatch => exact absurd hdispatch hnot
  | sleepWaits hdispatch => exact absurd hdispatch hnot
  | sleepReturns hdispatch => exact absurd hdispatch hnot
  | connects hat hconn =>
    rw [hstack, List.cons.injEq] at hat
    obtain ⟨rfl, rfl⟩ := hat
    exact ⟨⟨_, _, rfl, Net.connStep_fails hfails hconn⟩, hcount⟩
  -- the ninth error reboots instead of returning
  | retries _ hretry => exact absurd hcount (App.retryInitConnection_eq_ok hretry).1
  | resumes hat =>
    rw [hstack, List.cons.injEq] at hat
    rw [hat.1] at hfails
    exact absurd hfails Bool.false_ne_true
  | sleeps hat =>
    rw [hstack, List.cons.injEq] at hat
    rw [hat.1] at hfails
    exact absurd hfails Bool.false_ne_true
  | initPdmcClient hat =>
    rw [hstack, List.cons.injEq] at hat
    rw [hat.1] at hfails
    exact absurd hfails Bool.false_ne_true

theorem not_doomed_of_top {f : Frame} {stack : List Frame} (hstack : d.stack = f :: stack)
    (hf : f.fails = false) : ¬ d.Doomed := by
  rintro ⟨⟨g, stack', hstack', hfails⟩, -⟩
  rw [hstack, List.cons.injEq] at hstack'
  rw [← hstack'.1, hf] at hfails
  exact absurd hfails Bool.false_ne_true

/-- What it takes to get back to the loop of `main`. -/
theorem of_returns (hd : d.Nested pre) {js : List Input} (hrun : run Device.step d js = .ok t)
    (ht : t.stack = [.mainLoop]) : d.stranded = 0 ∧ ¬ d.Doomed := by
  constructor
  -- what is stranded stays so, and `main` is not
  · have hle := stranded_le_of_run hd hrun
    rw [stranded_of_mainLoop ht] at hle
    exact Nat.le_zero.mp hle
  · intro hdoomed
    have hstill : t.Doomed := run_invariant (fun _ _ _ h hd => Doomed.step hd h) hrun hdoomed
    exact not_doomed_of_top ht rfl hstill

end Device

/-! ### What is known on the way back -/

/-- `init_connection()` is on its way, but not in a dispatch. -/
def Frame.connects : Frame → Bool
  | .attempt _ _ (.dispatch _) => false
  | .attempt _ _ _ => true
  | .backOff _ _ => true
  | .connected _ => true
  | _ => false

theorem Frame.connects_of_dispatches {f : Frame} (h : f.dispatches = true) :
    f.connects = false := by
  cases f with
  | attempt caller timeoutMs p => cases p <;> first | rfl | simp [dispatches] at h
  | mainLoop => rfl
  | _ => simp [dispatches] at h

namespace Net

variable {n n' : Net}

theorem SameDispatch.bothDue_iff (h : n.SameDispatch n') : n'.BothDue ↔ n.BothDue := by
  rw [BothDue, BothDue, h.dispatchCalled, h.breakRequested]

/-- The callback never leaves two breaks due where there were none. -/
theorem networkStatusCallback_bothDue {event : NsapiEvent} {status : NsapiStatus}
    (h : (n.networkStatusCallback event status).BothDue) : n.BothDue := by
  rcases networkStatusCallback_dispatch event status n with hsame | ⟨-, hbroken⟩
  · exact hsame.bothDue_iff.mp h
  · exact absurd (hbroken.symm.trans h.1) (by decide)

/-- Nor does `init_connection`, outside its dispatch. -/
theorem connStep_bothDue {caller : Caller} {timeoutMs : ℤ} {p : ConnPoint} {r : DriverInput}
    {next : ConnNext} (h : n.connStep p r = .ok (n', next))
    (hnext : (Frame.ofNext caller timeoutMs next).connects = true) (hboth : n'.BothDue) :
    n.BothDue ∧ (Frame.attempt caller timeoutMs p).connects = true := by
  rcases connStep_sameDispatch h with ⟨hne, hsame⟩ | ⟨k, rfl, rfl, -⟩ | ⟨k, rfl, -, rfl⟩
  · refine ⟨hsame.bothDue_iff.mp hboth, ?_⟩
    cases p <;> first | rfl | exact absurd rfl (hne _)
  · exact absurd hnext Bool.false_ne_true
  · exact absurd hboth.2 Bool.false_ne_true

/-- Where there is an interface, its callback is installed. -/
def Listens (n : Net) : Prop := n.networkInterface.isSome = true → n.listeners ≠ 0

theorem Listens.initConnection (id : ℤ) (n : Net) : (n.initConnection id).1.Listens := by
  unfold Net.initConnection
  dsimp only
  split
  · next hnone =>
    intro h
    rw [hnone] at h
    exact absurd h Bool.false_ne_true
  · exact fun _ => Nat.succ_ne_zero _

theorem Listens.closeStep (hn : n.Listens) (err : NsapiError) : (n.closeStep err).1.Listens := by
  unfold Net.closeStep
  split
  · exact fun h => absurd h Bool.false_ne_true
  · exact hn

theorem Listens.networkStatusCallback (hn : n.Listens) (event : NsapiEvent)
    (status : NsapiStatus) : (n.networkStatusCallback event status).Listens := by
  rw [Listens, networkStatusCallback_networkInterface, networkStatusCallback_listeners]
  exact hn

theorem Listens.connStep (hn : n.Listens) {p : ConnPoint} {r : DriverInput} {next : ConnNext}
    (h : n.connStep p r = .ok (n', next)) : n'.Listens := by
  rw [Listens, connStep_networkInterface h, connStep_listeners h]
  exact hn

/-- A call of `init_connection` that finds an interface has cleared `dispatch_called`. -/
theorem initConnection_not_bothDue (id : ℤ) (n : Net)
    (h : (n.initConnection id).1.networkInterface.isSome = true) :
    ¬ (n.initConnection id).1.BothDue := by
  unfold Net.initConnection at h ⊢
  dsimp only at h ⊢
  split at h
  · next hnone =>
    rw [hnone] at h
    exact absurd h Bool.false_ne_true
  · next hsome =>
    rw [hsome]
    exact fun hboth => absurd hboth.1 Bool.false_ne_true

end Net

namespace Device

variable {d t : Device} {i : Input}

/-- What is known between the steps: the calls are nested, the variables agree, and where
`init_connection()` does not dispatch, two breaks are not due at once. -/
structure Known (d : Device) : Prop where
  nested : ∃ pre, d.Nested pre
  linked : d.Linked
  listens : d.app.net.Listens
  apart : d.app.net.networkInterface.isSome = true → ∀ f stack, d.stack = f :: stack →
    f.connects = true → ¬ d.app.net.BothDue

/-- Where the event queue is dispatched, nothing more is asked. -/
theorem Known.of_dispatches (hnested : ∃ pre, d.Nested pre) (hlinked : d.Linked)
    (hlistens : d.app.net.Listens) (hdispatch : ∀ f ∈ d.stack, f.dispatches = true) : d.Known := by
  refine ⟨hnested, hlinked, hlistens, ?_⟩
  intro _ f stack hstack hconnects
  have hf : f.dispatches = true := hdispatch f (hstack ▸ List.mem_cons_self)
  exact absurd hconnects (by simp [Frame.connects_of_dispatches hf])

theorem step_known (hd : d.Known) (h : d.step i = .ok t) : t.Known := by
  obtain ⟨pre, hnested⟩ := hd.nested
  have ht : ∃ pre, t.Nested pre := ⟨pre ++ [i], step_nested h hnested⟩
  have hlinked : t.Linked := step_linked h hd.linked
  cases steps_of_step h with
  | status =>
    refine ⟨ht, hlinked, hd.listens.networkStatusCallback _ _, ?_⟩
    intro hiface f stack hstack hconnects hboth
    have hiface' : d.app.net.networkInterface.isSome = true :=
      Net.networkStatusCallback_networkInterface _ _ _ ▸ hiface
    exact hd.apart hiface' f stack hstack hconnects (Net.networkStatusCallback_bothDue hboth)
  | press => exact ⟨ht, hlinked, hd.listens, hd.apart⟩
  | run hdispatch hhandles =>
    have hnet := (Local.handles hhandles).net
    refine .of_dispatches ht hlinked ?_ (hd.linked.dispatches_of_mem hdispatch)
    exact hnet ▸ hd.listens
  | wakeUpInit hdispatch =>
    exact .of_dispatches ht hlinked hd.listens (hd.linked.dispatches_of_mem hdispatch)
  | wakeUpAwake hdispatch _ hwake =>
    obtain ⟨client, -, rfl⟩ := App.wakeUp_spec hwake
    exact .of_dispatches ht hlinked hd.listens (hd.linked.dispatches_of_mem hdispatch)
  | wakeUpPaused hdispatch _ hwake =>
    refine ⟨ht, hlinked, Net.Listens.initConnection (-1) _, ?_⟩
    intro hiface f stack _ _
    exact Net.initConnection_not_bothDue (-1) _ hiface
  | sleepWaits hdispatch =>
    refine ⟨ht, hlinked, hd.listens, ?_⟩
    intro _ f stack hstack hconnects
    rw [List.cons.injEq] at hstack
    rw [← hstack.1] at hconnects
    exact absurd hconnects Bool.false_ne_true
  | sleepReturns hdispatch =>
    exact .of_dispatches ht hlinked hd.listens (hd.linked.dispatches_of_mem hdispatch)
  | @connects caller timeoutMs p stack r next hstack hconn =>
    obtain ⟨n, next⟩ := next
    refine ⟨ht, hlinked, hd.listens.connStep hconn, ?_⟩
    intro hiface f stack' hstack' hconnects hboth
    have hf : f = .ofNext caller timeoutMs next := (List.cons.inj hstack').1.symm
    rw [hf] at hconnects
    have hiface' : d.app.net.networkInterface.isSome = true :=
      Net.connStep_networkInterface hconn ▸ hiface
    obtain ⟨hbefore, hhere⟩ := Net.connStep_bothDue hconn hconnects hboth
    exact hd.apart hiface' _ _ hstack hhere hbefore
  | retries _ hretry =>
    -- the call starts afresh, with `dispatch_called` cleared
    refine ⟨ht, hlinked, Net.Listens.initConnection (-1) _, ?_⟩
    intro hiface f stack _ _
    exact Net.initConnection_not_bothDue (-1) _ hiface
  | resumes hstack =>
    exact .of_dispatches ht hlinked hd.listens (hd.linked.dispatches_of_tail hstack)
  | sleeps hstack =>
    exact .of_dispatches ht hlinked (hd.listens.closeStep _) (hd.linked.dispatches_of_tail hstack)
  | @initPdmcClient env stack hstack =>
    obtain ⟨counter, registry, hspec⟩ := App.initPdmcClient_spec env d.app
    refine .of_dispatches ht hlinked ?_ ?_
    · rw [hspec]
      exact hd.listens
    · intro f hf
      rcases List.mem_cons.mp hf with htop | hbelow
      · rw [htop]
        rfl
      · exact hd.linked.dispatches_of_tail hstack f hbelow

theorem boot_known (defaultInstance : Option NetworkInterface) :
    (boot defaultInstance).Known where
  nested := ⟨[], boot_nested defaultInstance⟩
  linked := boot_linked defaultInstance
  listens := Net.Listens.initConnection (-1) _
  apart := fun hiface _ _ _ _ => Net.initConnection_not_bothDue (-1) _ hiface

end Device

/-! ### The way back -/

namespace Net

variable {n : Net}

theorem globalUp_interfaceConnected (n : Net) :
    (n.networkStatusCallback .connectionStatusChange .globalUp).interfaceConnected = true :=
  ((SameLink.breakDispatch { n.record (.status .connectionStatusChange .globalUp) with
    interfaceConnected := true }).trans (SameLink.sendNetworkEvent _ _)).interfaceConnected

theorem globalUp_dispatchCalled (n : Net) :
    (n.networkStatusCallback .connectionStatusChange .globalUp).dispatchCalled = false := by
  have hsend := SameDispatch.sendNetworkEvent .globalUp { n.record
    (.status .connectionStatusChange .globalUp) with interfaceConnected := true }.breakDispatch
  refine hsend.dispatchCalled.trans ?_
  unfold breakDispatch
  split
  · rfl
  · next hcalled => simpa using hcalled

/-- With an interface to be found, `init_connection` finds it. -/
theorem initConnection_of_default (id : ℤ) (h : n.defaultInstance.isSome = true) :
    (n.initConnection id).2 = .waits .setBlocking ∧
      (n.initConnection id).1.networkInterface.isSome = true := by
  obtain ⟨iface, hiface⟩ := Option.isSome_iff_exists.mp h
  simp [Net.initConnection, hiface, record]

theorem deref_of_isSome (h : n.networkInterface.isSome = true) : n.deref = .ok () := by
  obtain ⟨iface, hiface⟩ := Option.isSome_iff_exists.mp h
  rw [deref, hiface]

end Net

/-- How many steps the way takes from a wait of `init_connection` on, at most. -/
def ConnPoint.toGo (n : Net) : ConnPoint → ℕ
  | .setBlocking => 3
  | .connect _ => 4
  | .connected _ => 6 + n.dispatchCalled.toNat
  | .dispatch _ => if n.breakRequested then 4 else 5
  | .check _ => if n.interfaceConnected then 2 else 3
  | .disconnect _ => 7
  | .wait _ => 6
  | .connectBlocking _ => 2
  | .disconnectBlocking _ => 7
  | .waitBlocking _ => 6

/-- How many steps the way takes out of a call, at most. -/
def Frame.toGo (n : Net) : Frame → ℕ
  | .attempt _ _ p => p.toGo n
  | .backOff _ _ => 4 + n.dispatchCalled.toNat
  | .connected _ => 1
  | .sleep => 1
  | .mainLoop => 0

theorem Frame.toGo_le (n : Net) (f : Frame) : f.toGo n ≤ 7 := by
  have hcalled := Bool.toNat_le n.dispatchCalled
  cases f with
  | attempt caller timeoutMs p =>
    show p.toGo n ≤ 7
    cases p <;> simp only [ConnPoint.toGo] <;> first | omega | (split <;> omega)
  | backOff => simp only [toGo]; omega
  | _ => simp [toGo]

namespace Device

variable {d t : Device} {i : Input}

/-- How many steps the way back to the loop of `main` takes, at most. -/
def toGo (d : Device) : ℕ := 8 * d.stack.length + (d.stack.head?.elim 0 (Frame.toGo d.app.net))

/-- The device can get back: its interface is open, nothing is stranded, and it is not
doomed. -/
structure Returning (d : Device) : Prop where
  known : d.Known
  interface : d.app.net.networkInterface.isSome = true
  unstranded : d.stranded = 0
  not_doomed : ¬ d.Doomed

/-- One step closer to the loop of `main`. -/
def Closer (d : Device) : Prop := ∃ i t, d.step i = .ok t ∧ t.Returning ∧ t.toGo < d.toGo

/-- The way does not strand a dispatch, close the interface or give up. -/
theorem Returning.step (hd : d.Returning) (h : d.step i = .ok t) (hno : ¬ Strands d i)
    (hinterface : t.app.net.networkInterface.isSome = true) (hdoomed : ¬ t.Doomed) :
    t.Returning := by
  obtain ⟨pre, hnested⟩ := hd.known.nested
  refine ⟨step_known hd.known h, hinterface, ?_, hdoomed⟩
  rcases step_stranded hnested h with ⟨hstrands, -⟩ | ⟨-, hsame⟩
  · exact absurd hstrands hno
  · exact hsame.trans hd.unstranded

/-- Where the calls on the stack dispatch, none of them fails. -/
theorem not_doomed_of_dispatches (h : ∀ f ∈ d.stack, f.dispatches = true) : ¬ d.Doomed := by
  rintro ⟨⟨f, stack, hstack, hfails⟩, -⟩
  have hf := h f (hstack ▸ List.mem_cons_self)
  rw [Frame.dispatches_of_fails hfails] at hf
  exact absurd hf Bool.false_ne_true

/-- The call on top of the stack returns. -/
theorem Returning.pop (hd : d.Returning) (h : d.step i = .ok t) (hno : ¬ Strands d i) {f : Frame}
    {stack : List Frame} (hstack : d.stack = f :: stack) (ht : t.stack = stack)
    (hinterface : t.app.net.networkInterface = d.app.net.networkInterface) : d.Closer := by
  refine ⟨i, t, h, hd.step h hno (hinterface ▸ hd.interface) ?_, ?_⟩
  · apply not_doomed_of_dispatches
    rw [ht]
    exact hd.known.linked.dispatches_of_tail hstack
  · rw [toGo, toGo, ht, hstack, List.length_cons]
    -- one call fewer outweighs whatever is left to do in the one below it
    have hle : stack.head?.elim 0 (Frame.toGo t.app.net) ≤ 7 := by
      cases stack with
      | nil => exact Nat.zero_le _
      | cons g _ => exact Frame.toGo_le _ g
    omega

/-- `init_connection()`, on top of the stack, comes closer to its end. -/
theorem Returning.settle (hd : d.Returning) {f g : Frame} {stack : List Frame}
    (hstack : d.stack = f :: stack) (h : d.step i = .ok t) (ht : t.stack = g :: stack)
    (hno : ¬ Strands d i) (hinterface : t.app.net.networkInterface.isSome = true)
    (hdoomed : ¬ t.Doomed) (hless : g.toGo t.app.net < f.toGo d.app.net) : d.Closer := by
  refine ⟨i, t, h, hd.step h hno hinterface hdoomed, ?_⟩
  rw [toGo, toGo, ht, hstack]
  exact Nat.add_lt_add_left hless _

/-- A GLOBAL_UP helps, where two breaks are not due. -/
theorem Returning.globalUp (hd : d.Returning) {f : Frame} {stack : List Frame}
    (hstack : d.stack = f :: stack) (hboth : ¬ d.app.net.BothDue)
    (hless : f.toGo (d.app.net.networkStatusCallback .connectionStatusChange .globalUp) <
      f.toGo d.app.net) : d.Closer := by
  have hlisten : d.app.net.listeners ≠ 0 := hd.known.listens hd.interface
  have hstep : d.step (.status .connectionStatusChange .globalUp) = .ok { d with app := { d.app with
      net := d.app.net.networkStatusCallback .connectionStatusChange .globalUp } } := by
    rw [Device.step, if_neg hlisten]
  refine hd.settle hstack hstep hstack ?_ ?_ ?_ hless
  · intro hstrands
    cases hstrands with
    | merges _ h => exact hboth h
  · show (d.app.net.networkStatusCallback _ _).networkInterface.isSome = true
    rw [Net.networkStatusCallback_networkInterface]
    exact hd.interface
  · exact hd.not_doomed

/-- The driver answers `init_connection(-1)`. -/
theorem Returning.answer (hd : d.Returning) {caller : Caller} {timeoutMs : ℤ} {p : ConnPoint}
    {stack : List Frame} (hstack : d.stack = .attempt caller timeoutMs p :: stack)
    {r : DriverInput} {n : Net} {next : ConnNext} (hconn : d.app.net.connStep p r = .ok (n, next))
    (hcalled : p.isConnected = true → d.app.net.dispatchCalled = false)
    (hfails : (Frame.ofNext caller timeoutMs next).fails = true →
      (Frame.attempt caller timeoutMs p).fails = true)
    (hless : (Frame.ofNext caller timeoutMs next).toGo n < p.toGo d.app.net) : d.Closer := by
  have hstep : d.step (.driver r) = .ok (Device.settle caller timeoutMs d.app stack (n, next)) := by
    simp only [Device.step, goOn, hstack, hconn, ok_bind, pure_eq_ok]
  have hinterface : n.networkInterface.isSome = true :=
    Net.connStep_networkInterface hconn ▸ hd.interface
  refine hd.settle hstack hstep rfl ?_ hinterface ?_ hless
  · intro hstrands
    cases hstrands with
    | retries hback => simp [hstack] at hback
    | dispatches hat h =>
      rw [hstack, List.cons.injEq, Frame.attempt.injEq] at hat
      rw [hcalled (hat.1.2.2 ▸ rfl)] at h
      exact absurd h Bool.false_ne_true
  · rintro ⟨⟨f, stack', hstack', hf⟩, hcount⟩
    have hf' : f = .ofNext caller timeoutMs next := (List.cons.inj hstack').1.symm
    exact hd.not_doomed ⟨⟨_, _, hstack, hfails (hf' ▸ hf)⟩, hcount⟩

/-- Two breaks are not due where `init_connection()` is on its way. -/
theorem Returning.not_bothDue (hd : d.Returning) {f : Frame} {stack : List Frame}
    (hstack : d.stack = f :: stack) (hconnects : f.connects = true) : ¬ d.app.net.BothDue :=
  hd.known.apart hd.interface f stack hstack hconnects

/-- In a dispatch of `init_connection`, a break is to come or has been requested. -/
theorem Returning.ends (hd : d.Returning) {f : Frame} {stack : List Frame}
    (hstack : d.stack = f :: stack) (hf : f.awaitsBreak = true) : d.app.net.Ends := by
  have hunstranded := hd.unstranded
  rw [stranded, hstack, countP_awaitsBreak, hf] at hunstranded
  have hdue : 1 ≤ d.app.net.breaksDue := by
    simp only [Bool.toNat_true] at hunstranded
    omega
  rw [Net.breaksDue] at hdue
  rw [Net.Ends]
  cases hcalled : d.app.net.dispatchCalled with
  | true => exact Or.inl rfl
  | false =>
    cases hbreak : d.app.net.breakRequested with
    | true => exact Or.inr rfl
    | false => simp [hcalled, hbreak] at hdue

/-- `init_connection(-1)` can always come closer to its end. -/
theorem Returning.attempt_closer (hd : d.Returning) {caller : Caller} {timeoutMs : ℤ}
    {p : ConnPoint} {stack : List Frame} (hstack : d.stack = .attempt caller timeoutMs p :: stack) :
    d.Closer := by
  have hderef : d.app.net.deref = .ok () := Net.deref_of_isSome hd.interface
  cases p with
  | setBlocking =>
    -- the blocking path is the shorter one
    have hconn : d.app.net.connStep .setBlocking (.setBlockingReturns (.other (-3002))) =
        .ok (d.app.net.record .connect, .waits (.connectBlocking 1)) := by
      simp [Net.connStep, Net.attemptBlocking, platformConnectionRetryCount, hderef]
    refine hd.answer hstack hconn ?_ ?_ ?_
    · simp [ConnPoint.isConnected]
    · simp [Frame.ofNext, Frame.fails]
    · exact Nat.lt_succ_self 2
  | connect i =>
    have hup : ({ d.app.net.record (.connectReturned false .isConnected) with
        interfaceConnected := true }.sendNetworkEvent .globalUp).interfaceConnected = true :=
      (Net.SameLink.sendNetworkEvent _ _).interfaceConnected
    refine hd.answer hstack (r := .connectReturns .isConnected) rfl ?_ ?_ ?_
    · simp [ConnPoint.isConnected]
    · simp [Frame.ofNext, Frame.fails]
    · simp [Frame.ofNext, Frame.toGo, ConnPoint.toGo, hup]
  | connected i =>
    cases hcalled : d.app.net.dispatchCalled with
    | true =>
      -- the break that was to come for a dispatch below comes first
      refine hd.globalUp hstack (hd.not_bothDue hstack rfl) ?_
      simp [Frame.toGo, ConnPoint.toGo, hcalled, Net.globalUp_dispatchCalled]
    | false =>
      refine hd.answer hstack (r := .proceed) rfl (fun _ => hcalled) ?_ ?_
      · simp [Frame.ofNext, Frame.fails]
      · simp only [Frame.ofNext, Frame.toGo, ConnPoint.toGo]
        split <;> omega
  | dispatch i =>
    cases hbreak : d.app.net.breakRequested with
    | true =>
      have hconn : d.app.net.connStep (.dispatch i) .dispatchReturns =
          .ok ({ d.app.net with breakRequested := false }, .waits (.check i)) := by
        simp [Net.connStep, hbreak]
      refine hd.answer hstack hconn ?_ ?_ ?_
      · simp [ConnPoint.isConnected]
      · simp [Frame.ofNext, Frame.fails]
      · simp only [Frame.ofNext, Frame.toGo, ConnPoint.toGo, hbreak]
        split <;> simp
    | false =>
      have hends := hd.ends hstack rfl
      have hnot : ¬ d.app.net.BothDue := fun h => absurd (hbreak.symm.trans h.2) (by decide)
      refine hd.globalUp hstack hnot ?_
      simp [Frame.toGo, ConnPoint.toGo, hbreak, hends.globalUp]
  | check i =>
    cases hup : d.app.net.interfaceConnected with
    | true =>
      have hconn : d.app.net.connStep (.check i) .proceed = .ok (d.app.net, .returned true) := by
        simp [Net.connStep, hderef, hup]
      refine hd.answer hstack hconn ?_ ?_ ?_
      · simp [ConnPoint.isConnected]
      · simp [Frame.ofNext, Frame.fails]
      · simp [Frame.ofNext, Frame.toGo, ConnPoint.toGo, hup]
    | false =>
      refine hd.globalUp hstack (hd.not_bothDue hstack rfl) ?_
      simp [Frame.toGo, ConnPoint.toGo, hup, Net.globalUp_interfaceConnected]
  | disconnect i =>
    refine hd.answer hstack (r := .disconnectReturns .ok) rfl ?_ id ?_
    · simp [ConnPoint.isConnected]
    · exact Nat.lt_succ_self 6
  | wait i =>
    by_cases hi : i + 1 ≤ platformConnectionRetryCount
    · have hconn : d.app.net.connStep (.wait i) .proceed =
          .ok (d.app.net.record .connect, .waits (.connect (i + 1))) := by
        simp [Net.connStep, Net.attempt, hi, hderef]
      refine hd.answer hstack hconn ?_ ?_ ?_
      · simp [ConnPoint.isConnected]
      · simp [Frame.ofNext, Frame.fails]
      · simp [Frame.ofNext, Frame.toGo, ConnPoint.toGo]
    -- after the fifth attempt the call returns `false`
    · have hconn : d.app.net.connStep (.wait i) .proceed = .ok (d.app.net, .returned false) := by
        simp [Net.connStep, Net.attempt, hi]
      refine hd.answer hstack hconn ?_ ?_ ?_
      · simp [ConnPoint.isConnected]
      · intro _
        have hlast : platformConnectionRetryCount ≤ i := by omega
        simpa [Frame.fails] using hlast
      · have hcalled := Bool.toNat_le d.app.net.dispatchCalled
        simp only [Frame.ofNext, Frame.toGo, ConnPoint.toGo]
        omega
  | connectBlocking i =>
    have hconn : d.app.net.connStep (.connectBlocking i) (.connectReturns .ok) =
        .ok ({ d.app.net.record (.connectReturned true .ok) with interfaceConnected := true },
          .returned true) := by
      simp [Net.connStep, hderef]
    refine hd.answer hstack hconn ?_ ?_ ?_
    · simp [ConnPoint.isConnected]
    · simp [Frame.ofNext, Frame.fails]
    · exact Nat.lt_succ_self 1
  | disconnectBlocking i =>
    refine hd.answer hstack (r := .disconnectReturns .ok) rfl ?_ id ?_
    · simp [ConnPoint.isConnected]
    · exact Nat.lt_succ_self 6
  | waitBlocking i =>
    by_cases hi : i + 1 ≤ platformConnectionRetryCount
    · have hconn : d.app.net.connStep (.waitBlocking i) .proceed =
          .ok (d.app.net.record .connect, .waits (.connectBlocking (i + 1))) := by
        simp [Net.connStep, Net.attemptBlocking, hi, hderef]
      refine hd.answer hstack hconn ?_ ?_ ?_
      · simp [ConnPoint.isConnected]
      · simp [Frame.ofNext, Frame.fails]
      · simp [Frame.ofNext, Frame.toGo, ConnPoint.toGo]
    · have hconn : d.app.net.connStep (.waitBlocking i) .proceed =
          .ok (d.app.net, .returned false) := by
        simp [Net.connStep, Net.attemptBlocking, hi]
      refine hd.answer hstack hconn ?_ ?_ ?_
      · simp [ConnPoint.isConnected]
      · intro _
        have hlast : platformConnectionRetryCount ≤ i := by omega
        simpa [Frame.fails] using hlast
      · have hcalled := Bool.toNat_le d.app.net.dispatchCalled
        simp only [Frame.ofNext, Frame.toGo, ConnPoint.toGo]
        omega

/-- **Every device that can get back can come closer**, until it is in the loop of `main`. -/
theorem Returning.closer (hd : d.Returning) : d.stack = [.mainLoop] ∨ d.Closer := by
  obtain ⟨pre, hnested⟩ := hd.known.nested
  obtain ⟨f, stack, hstack⟩ := hnested.stacked.exists_eq_cons
  have hstacked : Stacked (f :: stack) := hstack ▸ hnested.stacked
  cases f with
  | mainLoop =>
    left
    rw [hstack, hstacked.eq_nil rfl]
  | attempt caller timeoutMs p => exact Or.inr (hd.attempt_closer hstack)
  | backOff caller timeoutMs =>
    right
    cases hcalled : d.app.net.dispatchCalled with
    | true =>
      refine hd.globalUp hstack (hd.not_bothDue hstack rfl) ?_
      simp [Frame.toGo, hcalled, Net.globalUp_dispatchCalled]
    | false =>
      have hcount : d.app.client.pdmcClientErrorCount + 1 ≠
          maxPdmcClientInitConnectionErrorCount :=
        fun h => hd.not_doomed ⟨⟨_, _, hstack, rfl⟩, h⟩
      have hretry : d.app.retryInitConnection timeoutMs = .ok (timeoutMs * 2,
          { d.app with client := { d.app.client with
            pdmcClientErrorCount := d.app.client.pdmcClientErrorCount + 1 } }) := by
        simp [App.retryInitConnection, Client.rebootIfThresholdValue, hcount]
      have hstep : d.step (.driver .proceed) = .ok (Device.attempt caller (timeoutMs * 2)
          { d.app with client := { d.app.client with
            pdmcClientErrorCount := d.app.client.pdmcClientErrorCount + 1 } } stack) := by
        simp only [Device.step, goOn, hstack, hretry, ok_bind, pure_eq_ok]
      obtain ⟨hnext, hinterface⟩ := Net.initConnection_of_default (-1)
        (hd.known.linked.net.default hd.interface)
      have ht : (Device.attempt caller (timeoutMs * 2) { d.app with client := { d.app.client with
          pdmcClientErrorCount := d.app.client.pdmcClientErrorCount + 1 } } stack).stack =
          .attempt caller (timeoutMs * 2) .setBlocking :: stack :=
        congrArg (Frame.ofNext caller (timeoutMs * 2) · :: stack) hnext
      refine hd.settle hstack hstep ht ?_ hinterface (not_doomed_of_top ht rfl) ?_
      · intro hstrands
        cases hstrands with
        | retries _ _ h => exact absurd (hcalled.symm.trans h) (by decide)
        | dispatches hat => simp [hstack] at hat
      · exact Nat.lt_of_lt_of_le (Nat.lt_succ_self 3) (Nat.le_add_right _ _)
  | connected caller =>
    right
    cases caller with
    | main =>
      obtain ⟨counter, registry, hspec⟩ := App.initPdmcClient_spec {} d.app
      have hstep : d.step (.initPdmcClient {}) =
          .ok ⟨d.app.initPdmcClient {}, .mainLoop :: stack⟩ := by
        simp [Device.step, hstack]
      refine hd.settle hstack hstep rfl (by rintro ⟨⟩) ?_ ?_ Nat.zero_lt_one
      · rw [hspec]
        exact hd.interface
      · exact not_doomed_of_top rfl rfl
    | pdmcClientResume =>
      refine hd.pop (i := .driver .proceed) ?_ ?_ hstack (t := ⟨d.app.leaveResume, stack⟩) rfl rfl
      · simp [Device.step, goOn, hstack]
      · intro hstrands
        cases hstrands with
        | retries hback => simp [hstack] at hback
        | dispatches hat => simp [hstack] at hat
  -- the driver fails to disconnect, which leaves the interface open
  | sleep =>
    right
    refine hd.pop (i := .driver (.disconnectReturns (.other (-3012)))) ?_ ?_ hstack
      (t := ⟨d.app.leaveSleep, stack⟩) rfl rfl
    · simp [Device.step, goOn, hstack, Net.closeStep]
    · rintro ⟨⟩

end Device

/-- **A device whose interface is open can get back to the loop of `main` exactly when nothing
is stranded and it is not doomed.** -/
theorem device_returns_iff (defaultInstance : Option NetworkInterface) (is : List Input) :
    Always Device.step (.boot defaultInstance) is fun _ d =>
      d.app.net.networkInterface.isSome = true →
        ((∃ js t, run Device.step d js = .ok t ∧ t.stack = [.mainLoop]) ↔
          d.stranded = 0 ∧ ¬ d.Doomed) := by
  intro pre d _ h hinterface
  have hknown : d.Known :=
    run_invariant (fun _ _ _ h hd => Device.step_known hd h) h (Device.boot_known defaultInstance)
  constructor
  · rintro ⟨js, t, hrun, ht⟩
    exact Device.of_returns (Device.run_nested h) hrun ht
  · rintro ⟨hunstranded, hdoomed⟩
    have hreturning : d.Returning := ⟨hknown, hinterface, hunstranded, hdoomed⟩
    -- the way is taken step by step; `toGo` falls with each
    have hprogress : ∀ d : Device, d.Returning → d.stack = [.mainLoop] ∨
        ∃ i t, True ∧ d.step i = .ok t ∧ t.Returning ∧ t.toGo < d.toGo := by
      intro d hd
      exact hd.closer.imp_right fun ⟨i, t, h⟩ => ⟨i, t, trivial, h⟩
    obtain ⟨js, t, -, hrun, ht⟩ := exists_run_of_progress hprogress hreturning
    exact ⟨js, t, hrun, ht⟩

end PelionClientLite
