import PelionClientLite.Lib.History
import PelionClientLite.Timers

/-!
# Registering again

The handlers of the buttons and of the automatic increment act only while
`register_called` is set.  `init_pdmc_client` sets it, an unregistration clears it,
and a registration does not set it again.

## Main definitions

* `App.ActsOnTimers` — the two handlers act.
* `Revived` — a client that was last registered has handlers that act.
* `NeverUnregistered` — it has not been unregistered before that.

## Main results

* `Device.run_registerCalled` — the flag is what the history says.
* `revived_iff` — **registering revives the application exactly when there has been
  no unregistration.**
-/

namespace PelionClientLite

open Machine

/-! ### The flag -/

namespace Input

/-- `init_pdmc_client` returns, with all its resources. -/
def isStarted : Input → Bool
  | .initPdmcClient env => env.ok
  | _ => false

/-- The input is an OBJECT_UNREGISTERED event. -/
def isUnregistered : Input → Bool
  | .run (.clientEvent _ e) => e.isUnregistered
  | _ => false

/-- The input is an OBJECT_REGISTERED or an OBJECT_UNREGISTERED event. -/
def isRegistration (i : Input) : Bool := i.isRegistered || i.isUnregistered

end Input

/-- An event other than OBJECT_UNREGISTERED leaves `register_called`. -/
theorem App.pdmcEventHandler_registerCalled {a b : App} {env : Env} {e : ClientEvent}
    (h : a.pdmcEventHandler env e = .ok b) :
    b.client.registerCalled = (!e.isUnregistered && a.client.registerCalled) := by
  rcases pdmcEventHandler_spec h with ⟨he, h⟩ | ⟨-, rfl⟩
  · have hun : e.isUnregistered = false := ClientEvent.isUnregistered_of_isRegistered he
    obtain ⟨_, _, _, _, hb⟩ := pdmcClientRegistered_keeps h
    rw [hun, hb]
    rfl
  · rfl

/-- No other handler touches it. -/
theorem App.Handles.registerCalled {a b : App} {h : Handler} (hb : a.Handles h b) :
    b.client.registerCalled = (!(Input.run h).isUnregistered && a.client.registerCalled) := by
  cases hb with
  | clientEvent _ h => exact App.pdmcEventHandler_registerCalled h
  | taskletEvent _ _ hclicked =>
    obtain ⟨_, _, _, _, rfl, -⟩ := hclicked
    rfl
  | _ => rfl

namespace Device

variable {d t : Device} {i : Input}

/-- What each input does to `register_called`. -/
theorem step_registerCalled (h : d.step i = .ok t) :
    t.app.client.registerCalled =
      (i.isStarted || (!i.isUnregistered && d.app.client.registerCalled)) := by
  rcases step_cases h with ⟨hd, rfl, hhandles⟩ | ⟨env, rfl, hinit⟩ | ⟨hrun, hinit, hother⟩
  · exact hhandles.registerCalled
  · obtain ⟨counter, registry, hspec⟩ := App.initPdmcClient_spec env d.app
    rw [hinit, hspec]
    rfl
  · rw [hother.registerCalled]
    cases i with
    | run hd => exact absurd rfl (hrun hd)
    | initPdmcClient env => exact absurd rfl (hinit env)
    | _ => rfl

/-- `init_pdmc_client` has returned with all its resources, and since then no
OBJECT_UNREGISTERED event has been handled. -/
def startedSince (is : List Input) : Bool :=
  is.any Input.isStarted && !(History.since Input.isStarted is).any Input.isUnregistered

/-- `register_called` is what the history says. -/
theorem run_registerCalled {defaultInstance : Option NetworkInterface} {is : List Input}
    (hrun : run step (boot defaultInstance) is = .ok t) :
    t.app.client.registerCalled = startedSince is := by
  refine run_induction (P := fun is (t : Device) =>
    t.app.client.registerCalled = startedSince is) ?_ ?_ hrun
  · rfl
  · intro is d i t _ hd h
    rw [step_registerCalled h, hd, startedSince, startedSince, List.any_append]
    cases hi : i.isStarted with
    | true =>
      rw [History.since_concat_of_reset is hi]
      simp [hi]
    | false =>
      rw [History.since_concat is hi, List.any_cons, List.any_cons, List.any_nil, hi]
      cases i.isUnregistered <;> cases is.any Input.isStarted <;> rfl

end Device

/-! ### Reviving the application -/

namespace App

/-- The handlers of the buttons and of the automatic increment act, once they have
asked for their next timer. -/
def ActsOnTimers (a : App) : Prop :=
  ∀ env,
    (a.handleButtons env = do
      let blinky ← a.blinky.requestNextLoopEvent env
      return { a with blinky }.clickButtons env) ∧
    (a.handleAutomaticIncrement env = do
      let blinky ← a.blinky.requestAutomaticIncrementEvent env
      return ({ a with blinky }.incrementButtonValue env).2)

theorem actsOnTimers {a : App} (h : a.isPdmcClientRegisterCalled = true) : a.ActsOnTimers := by
  have hflag : a.client.registerCalled = true := h
  intro env
  simp only [handleButtons, handleAutomaticIncrement, hflag, if_true, and_self]

end App

/-- The client was started with all its resources, and of the registrations and
unregistrations since then a registration came last. -/
def LastRegistered (is : List Input) : Prop :=
  is.any Input.isStarted = true ∧
    ((History.since Input.isStarted is).find? Input.isRegistration).any Input.isRegistered = true

/-- A client that was last registered has `register_called` set, and handlers that act. -/
def Revived (is : List Input) (d : Device) : Prop :=
  LastRegistered is → d.app.isPdmcClientRegisterCalled = true ∧ d.app.ActsOnTimers

/-- A client that was last registered has not been unregistered since it was started. -/
def NeverUnregistered (is : List Input) : Prop :=
  LastRegistered is → (History.since Input.isStarted is).any Input.isUnregistered = false

/-- **Registering revives the application exactly when there has been no
unregistration.** -/
theorem revived_iff (defaultInstance : Option NetworkInterface) (is : List Input) :
    Always Device.step (.boot defaultInstance) is Revived ↔
      Always Device.step (.boot defaultInstance) is fun pre _ => NeverUnregistered pre := by
  apply always_congr
  intro pre t _ ht
  have hflag : t.app.isPdmcClientRegisterCalled = Device.startedSince pre :=
    Device.run_registerCalled ht
  constructor
  · intro h hlast
    have hset := (h hlast).1
    rw [hflag, Device.startedSince, hlast.1, Bool.true_and, Bool.not_eq_true'] at hset
    exact hset
  · intro h hlast
    have hset : t.app.isPdmcClientRegisterCalled = true := by
      rw [hflag, Device.startedSince, hlast.1, h hlast]
      rfl
    exact ⟨hset, App.actsOnTimers hset⟩

/-- Registered, unregistered and registered again, a client does nothing about its
timers. -/
theorem not_revived_registered_again :
    ¬ Always Device.step (.boot (some ⟨0⟩))
        (Device.startUp ++
          [registered, .run (.clientEvent {} ⟨.code .none, .objectUnregistered⟩), registered])
        Revived := by
  intro h
  have hrevived := h _ _ List.prefix_rfl rfl ⟨rfl, rfl⟩
  exact absurd hrevived.1 (by decide)

end PelionClientLite
