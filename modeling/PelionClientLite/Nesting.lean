import PelionClientLite.Attach
import PelionClientLite.Consistency
import PelionClientLite.WakeUp

/-!
# Calls on top of calls

A handler that resumes the client, or puts it to sleep, waits for the driver on top of
the call whose dispatch has called it.  Calls therefore stack up; but only handlers put
them there, only once `main` is in its loop, and never more of them than there are sleeps
from which the client has not been resumed.

All the calls of `init_connection` share one `dispatch_called` and one event queue, so
that a break may end a dispatch other than the one it was meant for.  What it cannot
end is the dispatch of `main`: there are never more breaks to come than dispatches of
`init_connection` on the stack to receive them.

## Main definitions

* `Stacked` — a call of `main`, and calls of handlers on top of it.
* `App.resumed` — the resumes that are done.
* `Net.breaksDue` — the breaks that are requested, or may be by the next status.
* `Device.Nested` — what is known of the stack.

## Main results

* `Net.connStep_breaksDue` — a break to come has a dispatch to receive it.
* `Device.step_nested` — every step keeps what is known of the stack.
* `device_nested` — **the calls of the device are nested, after every run, and no break
  ends the dispatch of `main`.**
-/

namespace PelionClientLite

open Machine

/-! ### The frames -/

namespace Frame

/-- The call is one of `main`. -/
def isMain : Frame → Bool
  | .attempt .main _ _ => true
  | .backOff .main _ => true
  | .connected .main => true
  | .mainLoop => true
  | _ => false

/-- The call is `init_connection`, in its `dispatch_forever()`. -/
def awaitsBreak : Frame → Bool
  | .attempt _ _ (.dispatch _) => true
  | _ => false

/-- `init_connection()` is where it is on behalf of its caller. -/
theorem isMain_ofNext (caller : Caller) (timeoutMs : ℤ) (next : ConnNext) :
    (ofNext caller timeoutMs next).isMain = decide (caller = .main) := by
  cases next with
  | waits p => cases caller <;> rfl
  | returned b => cases b <;> cases caller <;> rfl

theorem ofNext_ne_mainLoop (caller : Caller) (timeoutMs : ℤ) (next : ConnNext) :
    ofNext caller timeoutMs next ≠ .mainLoop := by
  cases next with
  | waits p => simp [ofNext]
  | returned b => cases b <;> simp [ofNext]

end Frame

/-- A call of `main`, and calls of handlers on top of it. -/
inductive Stacked : List Frame → Prop where
  | main {f : Frame} (hf : f.isMain = true) : Stacked [f]
  | handler {f : Frame} {stack : List Frame} (hf : f.isMain = false) (h : Stacked stack) :
      Stacked (f :: stack)

namespace Stacked

variable {f g : Frame} {stack : List Frame}

theorem exists_eq_cons (h : Stacked stack) : ∃ f rest, stack = f :: rest := by
  cases h with
  | main => exact ⟨_, _, rfl⟩
  | handler => exact ⟨_, _, rfl⟩

/-- The call on top goes on. -/
theorem replace (h : Stacked (f :: stack)) (hg : g.isMain = f.isMain) : Stacked (g :: stack) := by
  cases h with
  | main hf => exact .main (hg.trans hf)
  | handler hf h => exact .handler (hg.trans hf) h

/-- A call of a handler returns. -/
theorem pop (h : Stacked (f :: stack)) (hf : f.isMain = false) : Stacked stack := by
  cases h with
  | main hmain =>
    rw [hf] at hmain
    exact absurd hmain (by decide)
  | handler _ h => exact h

/-- Under a call of `main` there is nothing. -/
theorem eq_nil (h : Stacked (f :: stack)) (hf : f.isMain = true) : stack = [] := by
  cases h with
  | main => rfl
  | handler hno =>
    rw [hf] at hno
    exact absurd hno (by decide)

end Stacked

/-! ### The breaks to come -/

namespace Net

variable {n n' : Net}

/-- The breaks that are requested, or that the next terminal status requests. -/
def breaksDue (n : Net) : ℕ := n.dispatchCalled.toNat + n.breakRequested.toNat

theorem SameDispatch.breaksDue (h : n.SameDispatch n') : n'.breaksDue = n.breaksDue := by
  rw [Net.breaksDue, h.dispatchCalled, h.breakRequested, Net.breaksDue]

/-- A status that requests a break is not to request another. -/
theorem networkStatusCallback_breaksDue (event : NsapiEvent) (status : NsapiStatus) (n : Net) :
    (n.networkStatusCallback event status).breaksDue ≤ n.breaksDue := by
  -- a terminal status moves the one break from to be requested to requested
  rcases networkStatusCallback_dispatch event status n with hsame | ⟨hcalled, hbroken⟩
  · exact hsame.breaksDue.le
  · rw [breaksDue, breaksDue, hcalled, hbroken]
    have hle := Bool.toNat_le (n.networkStatusCallback event status).breakRequested
    show 0 + _ ≤ 1 + _
    omega

/-- `init_connection` begins with no break to be requested. -/
theorem initConnection_breaksDue (id : ℤ) (n : Net) :
    (n.initConnection id).1.breaksDue ≤ n.breaksDue := by
  unfold initConnection
  dsimp only
  split
  · exact Nat.le_refl _
  · show 0 + n.breakRequested.toNat ≤ n.breaksDue
    rw [breaksDue]
    omega

/-- The first wait of `init_connection` is not a dispatch. -/
theorem initConnection_awaitsBreak (caller : Caller) (timeoutMs id : ℤ) (n : Net) :
    (Frame.ofNext caller timeoutMs (n.initConnection id).2).awaitsBreak = false := by
  unfold initConnection
  dsimp only
  split <;> rfl

/-- **A break to come has a dispatch to receive it**: one more is to come where a dispatch
is entered, and one fewer where one is left. -/
theorem connStep_breaksDue {p : ConnPoint} {r : DriverInput} {next : ConnNext} (caller : Caller)
    (timeoutMs : ℤ) (h : n.connStep p r = .ok (n', next)) :
    n'.breaksDue + (Frame.attempt caller timeoutMs p).awaitsBreak.toNat ≤
      n.breaksDue + (Frame.ofNext caller timeoutMs next).awaitsBreak.toNat := by
  rcases connStep_sameDispatch h with
    ⟨hne, hsame⟩ | ⟨i, rfl, rfl, rfl⟩ | ⟨i, rfl, hbreak, rfl⟩
  · have hno : (Frame.attempt caller timeoutMs p).awaitsBreak = false := by
      cases p <;> first | rfl | exact absurd rfl (hne _)
    rw [hsame.breaksDue, hno]
    exact Nat.le_add_right _ _
  -- the dispatch is entered: `dispatch_called` stands for the break to come
  · have hle := Bool.toNat_le n.dispatchCalled
    show 1 + n.breakRequested.toNat + 0 ≤ n.breaksDue + 1
    rw [breaksDue]
    omega
  -- the dispatch is left, and takes its break along
  · show n.dispatchCalled.toNat + 0 + 1 ≤ n.breaksDue + _
    rw [breaksDue, hbreak]
    exact Nat.le_add_right _ _

end Net

/-! ### What handlers leave -/

/-- The start of the client. -/
def Input.isInit : Input → Bool
  | .initPdmcClient _ => true
  | _ => false

/-- `pdmc_connect_resume` is called. -/
def Call.isConnectResume : Call → Bool
  | .connectResume _ => true
  | _ => false

namespace App

variable {a b : App}

/-- The calls of `pdmc_client_resume` that are done: its last act is to call
`pdmc_connect_resume`. -/
def resumed (a : App) : ℕ := a.log.countP Call.isConnectResume

theorem leaveResume_resumed (a : App) : a.leaveResume.resumed = a.resumed + 1 :=
  List.countP_cons_of_pos rfl

/-- What does not concern the connection resumes nothing. -/
theorem resumed_of_local (h : Local a b) : b.resumed = a.resumed := by
  refine countP_log_of_local h fun c hc => ?_
  cases c <;> first | rfl | exact absurd hc Bool.false_ne_true

/-- No handler starts the client, and without it the wake-up timer is not armed. -/
theorem Handles.initialised {h : Handler} (hb : a.Handles h b) :
    b.client.initialised = a.client.initialised ∧
      (a.client.initialised = false → b.client.wakePending = a.client.wakePending) := by
  cases hb with
  | clientEvent hinit h =>
    -- client events come only to a client that has been started
    have hno : ¬ a.client.initialised = false := by
      rw [hinit]
      decide
    refine ⟨?_, fun h => absurd h hno⟩
    rcases pdmcEventHandler_spec h with ⟨-, h⟩ | ⟨-, rfl⟩
    · obtain ⟨_, _, _, _, rfl⟩ := pdmcClientRegistered_keeps h
      rfl
    · rfl
  | taskletEvent _ _ hclicked =>
    obtain ⟨_, _, _, _, rfl, -⟩ := hclicked
    exact ⟨rfl, fun _ => rfl⟩
  | _ => exact ⟨rfl, fun _ => rfl⟩

end App

/-! ### The stack -/

namespace Device

variable {d t : Device} {i : Input} {pre : List Input}

/-- What is known of the stack: there is a call of `main` at its bottom, and it is in its
loop once the client has been started, which happens once; until then it is alone, and
no wake-up is pending.  Above it there are at most as many calls as sleeps that have not
been resumed, and one fewer while the client is paused; and each break to come has a
dispatch of `init_connection` to receive it. -/
structure Nested (pre : List Input) (d : Device) : Prop where
  stacked : Stacked d.stack
  started : .mainLoop ∈ d.stack ↔ d.app.client.initialised = true
  once : pre.countP Input.isInit = d.app.client.initialised.toNat
  alone : d.app.client.initialised = false → d.stack.length = 1 ∧ d.app.client.wakePending = []
  depth : d.stack.length + d.app.client.paused.toNat + d.app.resumed ≤
    1 + pre.countP Input.isSleep
  breaks : d.app.net.breaksDue ≤ d.stack.countP Frame.awaitsBreak

/-- A step that leaves the stack as it is. -/
theorem Nested.keep (hd : d.Nested pre) (hinit : i.isInit = false) (hstack : t.stack = d.stack)
    (hstarted : t.app.client.initialised = d.app.client.initialised)
    (hwake : d.app.client.initialised = false → t.app.client.wakePending = [])
    (hpaused : t.app.client.paused.toNat + t.app.resumed ≤
      d.app.client.paused.toNat + d.app.resumed + if i.isSleep then 1 else 0)
    (hbreaks : t.app.net.breaksDue ≤ d.app.net.breaksDue) : t.Nested (pre ++ [i]) where
  stacked := hstack ▸ hd.stacked
  started := by
    rw [hstack, hstarted]
    exact hd.started
  once := by
    rw [List.countP_append, List.countP_singleton, hinit, hstarted]
    exact hd.once
  alone := by
    intro hno
    rw [hstarted] at hno
    rw [hstack]
    exact ⟨(hd.alone hno).1, hwake hno⟩
  depth := by
    have hdepth := hd.depth
    rw [hstack, List.countP_append, List.countP_singleton]
    omega
  breaks := by
    rw [hstack]
    exact hbreaks.trans hd.breaks

/-- A step in which `init_connection()`, on top of the stack, goes on. -/
theorem Nested.settle (hd : d.Nested pre) (hinit : i.isInit = false) (hsleep : i.isSleep = false)
    {f : Frame} {stack : List Frame} (hstack : d.stack = f :: stack) {caller : Caller}
    (hf : f.isMain = decide (caller = .main)) (hloop : f ≠ .mainLoop) {timeoutMs : ℤ} {a : App}
    (hstarted : a.client.initialised = d.app.client.initialised)
    (hwake : a.client.wakePending = d.app.client.wakePending)
    (hpaused : a.client.paused = d.app.client.paused) (hresumed : a.resumed = d.app.resumed)
    {next : Net × ConnNext}
    (hbreaks : next.1.breaksDue + f.awaitsBreak.toNat ≤
      d.app.net.breaksDue + (Frame.ofNext caller timeoutMs next.2).awaitsBreak.toNat) :
    (Device.settle caller timeoutMs a stack next).Nested (pre ++ [i]) := by
  have hlength : (Device.settle caller timeoutMs a stack next).stack.length = d.stack.length := by
    rw [hstack]
    rfl
  refine ⟨?_, ?_, ?_, ?_, ?_, ?_⟩
  · refine (hstack ▸ hd.stacked).replace ?_
    rw [Frame.isMain_ofNext, hf]
  · have h := hd.started
    rw [hstack, List.mem_cons, or_iff_right (Ne.symm hloop)] at h
    show Frame.mainLoop ∈ Frame.ofNext caller timeoutMs next.2 :: stack ↔
      a.client.initialised = true
    rw [List.mem_cons, or_iff_right (Ne.symm (Frame.ofNext_ne_mainLoop _ _ _)), hstarted]
    exact h
  · rw [List.countP_append, List.countP_singleton, hinit]
    exact hd.once.trans (congrArg Bool.toNat hstarted.symm)
  · intro hno
    obtain ⟨hone, hnone⟩ := hd.alone (hstarted.symm.trans hno)
    exact ⟨hlength.trans hone, hwake.trans hnone⟩
  · have hdepth := hd.depth
    rw [hlength, List.countP_append, List.countP_singleton, hsleep]
    show d.stack.length + a.client.paused.toNat + a.resumed ≤ _
    rw [hpaused, hresumed]
    exact hdepth
  · have hbefore := hd.breaks
    rw [hstack, List.countP_cons] at hbefore
    show next.1.breaksDue ≤ (Frame.ofNext caller timeoutMs next.2 :: stack).countP _
    rw [List.countP_cons]
    cases hfa : f.awaitsBreak <;>
      cases hga : (Frame.ofNext caller timeoutMs next.2).awaitsBreak <;>
      simp [hfa, hga] at hbefore hbreaks ⊢ <;> omega

/-- The client sleeps only once it has been started. -/
theorem initialised_of_sleep (h : d.step .sleep = .ok t) : d.app.client.initialised = true := by
  simp only [step] at h
  split at h
  · next hready => exact (Bool.and_eq_true_iff.mp hready).2
  · simp at h

/-- A wake-up comes only once the client has been started. -/
theorem Nested.initialised_of_pending (hd : d.Nested pre) {type : WakeUpEvent}
    (hpending : type ∈ d.app.client.wakePending) : d.app.client.initialised = true := by
  rw [← Bool.not_eq_false]
  intro hno
  rw [(hd.alone hno).2] at hpending
  exact absurd hpending List.not_mem_nil

/-- A handler that is called waits on top of the stack. -/
theorem Nested.push (hd : d.Nested pre) (hinit : i.isInit = false)
    (hstarted : d.app.client.initialised = true) {f : Frame} (hf : f.isMain = false)
    (hstack : t.stack = f :: d.stack)
    (hkept : t.app.client.initialised = d.app.client.initialised)
    (hpaused : 1 + t.app.client.paused.toNat + t.app.resumed ≤
      d.app.client.paused.toNat + d.app.resumed + if i.isSleep then 1 else 0)
    (hbreaks : t.app.net.breaksDue ≤ d.app.net.breaksDue) : t.Nested (pre ++ [i]) where
  stacked := hstack ▸ .handler hf hd.stacked
  started := by
    rw [hstack, hkept]
    exact iff_of_true (List.mem_cons_of_mem _ (hd.started.mpr hstarted)) hstarted
  once := by
    rw [List.countP_append, List.countP_singleton, hinit, hkept]
    exact hd.once
  alone := fun hno => absurd (hno.symm.trans (hkept.trans hstarted)) (by decide)
  depth := by
    have hdepth := hd.depth
    rw [hstack, List.length_cons, List.countP_append, List.countP_singleton]
    omega
  breaks := by
    rw [hstack]
    exact hbreaks.trans (hd.breaks.trans ((List.sublist_cons_self f d.stack).countP_le))

/-- A handler that is called comes back. -/
theorem Nested.pop (hd : d.Nested pre) (hinit : i.isInit = false) {f : Frame} {stack : List Frame}
    (hstack : d.stack = f :: stack) (hf : f.isMain = false) (hawaits : f.awaitsBreak = false)
    (ht : t.stack = stack) (hkept : t.app.client.initialised = d.app.client.initialised)
    (hpaused : t.app.client.paused.toNat + t.app.resumed ≤
      d.app.client.paused.toNat + d.app.resumed + 1)
    (hbreaks : t.app.net.breaksDue ≤ d.app.net.breaksDue) : t.Nested (pre ++ [i]) := by
  have hstacked : Stacked (f :: stack) := hstack ▸ hd.stacked
  have hstarted : d.app.client.initialised = true := by
    rw [← Bool.not_eq_false]
    intro hno
    -- a call of a handler is not alone
    have hone := (hd.alone hno).1
    rw [hstack, List.length_cons] at hone
    have hnil : stack = [] := List.length_eq_zero_iff.mp (by omega)
    have hpop := hstacked.pop hf
    rw [hnil] at hpop
    cases hpop
  refine ⟨ht ▸ hstacked.pop hf, ?_, ?_, ?_, ?_, ?_⟩
  · have hloop := hd.started.mpr hstarted
    have hne : Frame.mainLoop ≠ f := by
      rintro rfl
      exact absurd hf (by decide)
    rw [hstack, List.mem_cons, or_iff_right hne] at hloop
    rw [ht, hkept]
    exact iff_of_true hloop hstarted
  · rw [List.countP_append, List.countP_singleton, hinit, hkept]
    exact hd.once
  · exact fun hno => absurd (hno.symm.trans (hkept.trans hstarted)) (by decide)
  · have hdepth := hd.depth
    rw [hstack, List.length_cons] at hdepth
    rw [ht, List.countP_append]
    omega
  · have hbefore := hd.breaks
    rw [hstack, List.countP_cons_of_neg (by simp [hawaits])] at hbefore
    rw [ht]
    exact hbreaks.trans hbefore

/-- **Every step keeps what is known of the stack.** -/
theorem step_nested (h : d.step i = .ok t) (hd : d.Nested pre) : t.Nested (pre ++ [i]) := by
  cases steps_of_step h with
  | status =>
    exact hd.keep rfl rfl rfl (fun hno => (hd.alone hno).2) (Nat.le_add_right _ _)
      (Net.networkStatusCallback_breaksDue _ _ _)
  | press =>
    exact hd.keep rfl rfl rfl (fun hno => (hd.alone hno).2) (Nat.le_add_right _ _) (Nat.le_refl _)
  | run _ hhandles =>
    obtain ⟨hstarted, hwake⟩ := hhandles.initialised
    have hlocal := Local.handles hhandles
    refine hd.keep rfl rfl hstarted ?_ ?_ ?_
    · intro hno
      exact (hwake hno).trans (hd.alone hno).2
    · rw [hlocal.paused, App.resumed_of_local hlocal]
      exact Nat.le_add_right _ _
    · exact (congrArg Net.breaksDue hlocal.net).le
  | wakeUpInit _ hpending =>
    refine hd.keep rfl rfl rfl ?_ (Nat.le_refl _) (Nat.le_refl _)
    intro hno
    exact absurd (hno.symm.trans (hd.initialised_of_pending hpending)) (by decide)
  | wakeUpAwake _ hpending hwake =>
    obtain ⟨_, _, _, rfl⟩ := App.wakeUp_keeps hwake
    refine hd.keep rfl rfl rfl ?_ (Nat.le_refl _) (Nat.le_refl _)
    intro hno
    exact absurd (hno.symm.trans (hd.initialised_of_pending hpending)) (by decide)
  | wakeUpPaused _ hpending hwake hpaused =>
    obtain ⟨_, _, _, rfl⟩ := App.wakeUp_keeps hwake
    have hstarted := hd.initialised_of_pending hpending
    refine hd.push rfl hstarted ?_ rfl rfl ?_ ?_
    · exact Frame.isMain_ofNext .pdmcClientResume 5000 _
    · -- the sleep that paused the client is the one that ends
      have hbefore : d.app.client.paused = true := hpaused
      rw [hbefore]
      exact Nat.le_refl _
    · exact Net.initConnection_breaksDue (-1) _
  | sleepWaits =>
    refine hd.push rfl (initialised_of_sleep h) ?_ rfl rfl ?_ (Nat.le_refl _)
    · rfl
    · show 1 + d.app.client.paused.toNat + d.app.resumed ≤ _ + 1
      omega
  | sleepReturns =>
    refine hd.keep rfl rfl rfl ?_ ?_ (Nat.le_refl _)
    · intro hno
      exact absurd (hno.symm.trans (initialised_of_sleep h)) (by decide)
    · show 1 + d.app.resumed ≤ _ + 1
      omega
  | @connects caller timeoutMs p stack r next hstack hconn =>
    -- the call on top goes on; what is due to it is counted by `connStep_breaksDue`
    refine hd.settle (i := .driver r) rfl rfl hstack ?_ (by simp) rfl rfl rfl rfl ?_
    · cases caller <;> rfl
    · exact Net.connStep_breaksDue caller timeoutMs hconn
  | @retries caller timeoutMs timeoutMs' stack a hstack hretry =>
    obtain ⟨-, -, rfl⟩ := App.retryInitConnection_eq_ok hretry
    refine hd.settle (i := .driver .proceed) rfl rfl hstack ?_ (by simp) ?_ ?_ ?_ ?_ ?_
    · cases caller <;> rfl
    · rfl
    · rfl
    · rfl
    · rfl
    · exact (Net.initConnection_breaksDue (-1) d.app.net).trans (Nat.le_add_right _ _)
  | resumes hstack =>
    refine hd.pop rfl hstack rfl rfl rfl rfl ?_ (Nat.le_refl _)
    -- the call that has been resumed leaves the stack
    rw [d.app.leaveResume_resumed]
    exact Nat.le_refl _
  | @sleeps stack err hstack =>
    refine hd.pop rfl hstack rfl rfl rfl rfl ?_ ?_
    · show 1 + d.app.resumed ≤ _ + 1
      omega
    show (d.app.net.closeStep err).1.breaksDue ≤ _
    unfold Net.closeStep
    split <;> exact Nat.le_refl _
  | @initPdmcClient env stack hstack =>
    obtain ⟨counter, registry, hspec⟩ := App.initPdmcClient_spec env d.app
    have hstacked : Stacked (.connected .main :: stack) := hstack ▸ hd.stacked
    -- `main` is alone on the stack until its loop
    have hnil : stack = [] := hstacked.eq_nil rfl
    have hnot : d.app.client.initialised = false := by
      rw [← Bool.not_eq_true, ← hd.started, hstack, hnil]
      simp
    rw [hspec, hnil]
    refine ⟨.main rfl, ?_, ?_, ?_, ?_, ?_⟩
    · exact iff_of_true List.mem_cons_self rfl
    · have honce := hd.once
      rw [hnot] at honce
      rw [List.countP_append, honce]
      rfl
    · exact fun hno => absurd hno (by simp)
    · have hdepth := hd.depth
      rw [hstack, hnil] at hdepth
      rw [List.countP_append]
      exact hdepth
    · have hbefore := hd.breaks
      rw [hstack, hnil] at hbefore
      exact hbefore

theorem boot_nested (defaultInstance : Option NetworkInterface) :
    (boot defaultInstance).Nested [] := by
  refine ⟨.main ?_, ?_, rfl, fun _ => ⟨rfl, rfl⟩, Nat.le_refl _, ?_⟩
  · exact Frame.isMain_ofNext .main 5000 _
  · refine iff_of_false ?_ Bool.false_ne_true
    intro hmem
    exact Frame.ofNext_ne_mainLoop _ _ _ (List.mem_singleton.mp hmem).symm
  · exact (Net.initConnection_breaksDue (-1) { defaultInstance }).trans (Nat.zero_le _)

theorem run_nested {defaultInstance : Option NetworkInterface} {is : List Input}
    (hrun : run step (boot defaultInstance) is = .ok t) : t.Nested is :=
  run_induction (P := fun is (t : Device) => t.Nested is) (boot_nested defaultInstance)
    (fun _ _ _ _ _ hd h => step_nested h hd) hrun

/-- **No break ever ends the dispatch of `main`.** -/
theorem Nested.not_breakRequested (hd : d.Nested pre) {stack : List Frame}
    (hstack : d.stack = .mainLoop :: stack) : d.app.net.breakRequested = false := by
  have hstacked : Stacked (.mainLoop :: stack) := hstack ▸ hd.stacked
  have hbreaks := hd.breaks
  rw [hstack, hstacked.eq_nil rfl] at hbreaks
  -- no dispatch of `init_connection` is left to receive a break, so none is due
  have hzero : d.app.net.dispatchCalled.toNat + d.app.net.breakRequested.toNat ≤ 0 := hbreaks
  rw [← Bool.toNat_eq_zero]
  omega

end Device

/-- **The calls of the device are nested, after every run**: there are at most as many on
top of that of `main` as sleeps that have not been resumed; each call under another is
dispatching the event queue; and no break ever ends the dispatch of `main`, whatever call
of `init_connection` it was requested for. -/
theorem device_nested (defaultInstance : Option NetworkInterface) (is : List Input) :
    Always Device.step (.boot defaultInstance) is fun pre d =>
      d.Nested pre ∧ (∀ f ∈ d.stack.tail, f.dispatches = true) ∧
        (d.stack.head? = some .mainLoop → d.app.net.breakRequested = false) := by
  intro pre d _ h
  have hd := Device.run_nested h
  refine ⟨hd, (Device.run_linked h).dispatching, ?_⟩
  intro hhead
  obtain ⟨stack, hstack⟩ := List.head?_eq_some_iff.mp hhead
  exact hd.not_breakRequested hstack

end PelionClientLite
