import PelionClientLite.Timers

/-!
# The wake-up timer

In queue mode the client sleeps, and a timer wakes it up.  The handler of the timer
asks for the next one before it resumes the client, and the client counts as awake
before it connects; so it does not matter that resuming dispatches the event queue,
with other wake-ups and other sleeps to come before it is done.

## Main definitions

* `Client.Armed` — `wake_up_requested` says how many wake-up events are pending.
* `Device.asleep` — the sleeps that are not over.
* `WokenUp` — the timer runs, and there has been no resume without a sleep.

## Main results

* `Device.run_wakeUpRequested` — the timer runs from the first registration on.
* `Device.run_sleeps` — every resume has a sleep of its own.
* `always_wokenUp` — **the wake-up timer neither dies nor multiplies, and resumes
  match sleeps**, in every run that sleeps only after a registration.
-/

namespace PelionClientLite

open Machine

/-! ### The timer -/

namespace Client

variable {c c' : Client}

/-- One wake-up event is pending if `wake_up_requested` is set, and none if not. -/
def Armed (c : Client) : Prop := c.wakePending.count .wake = if c.wakeUpRequested then 1 else 0

theorem Armed.congr (h : c.Armed) (hpending : c'.wakePending = c.wakePending)
    (hrequested : c'.wakeUpRequested = c.wakeUpRequested) : c'.Armed := by
  rw [Armed, hpending, hrequested]
  exact h

/-- Arming the timer leaves it armed, however it was. -/
theorem requestNextWakeUp_armed {env : Env} (hc : c.Armed)
    (h : c.requestNextWakeUp env = .ok c') : c'.Armed ∧ c'.wakeUpRequested = true := by
  rcases requestNextWakeUp_spec h with ⟨hreq, heq⟩ | ⟨hreq, handler, pending, hpending, heq⟩
  · subst heq
    exact ⟨hc, hreq⟩
  · subst heq
    have hnone : c.wakePending.count .wake = 0 := by
      rw [Armed, hreq] at hc
      exact hc
    have hcount : pending.count .wake = 0 := by
      rcases hpending with hsame | hinit
      · rw [hsame, hnone]
      · rw [hinit, List.count_cons_of_ne (by decide), hnone]
    refine ⟨?_, rfl⟩
    show (WakeUpEvent.wake :: pending).count .wake = 1
    rw [List.count_cons_self, hcount]

end Client

namespace App

variable {a b : App} {env : Env}

/-- A client event keeps the timer as it is, and OBJECT_REGISTERED arms it. -/
theorem pdmcEventHandler_armed {e : ClientEvent} (ha : a.client.Armed)
    (h : a.pdmcEventHandler env e = .ok b) :
    b.client.Armed ∧
      b.client.wakeUpRequested = (a.client.wakeUpRequested || e.isRegistered) := by
  rcases pdmcEventHandler_spec h with ⟨he, h⟩ | ⟨he, hb⟩
  · obtain ⟨_, _, _, client, -, -, -, hclient, hb⟩ := pdmcClientRegistered_spec h
    subst hb
    have hc : { a.client with registered := true, pdmcClientErrorCount := 0 : Client }.Armed :=
      ha.congr rfl rfl
    obtain ⟨harmed, hreq⟩ := Client.requestNextWakeUp_armed hc hclient
    refine ⟨harmed, ?_⟩
    rw [he, Bool.or_true]
    exact hreq
  · subst hb
    refine ⟨ha.congr rfl rfl, ?_⟩
    rw [he, Bool.or_false]
    rfl

/-- No other handler touches the timer. -/
theorem Handles.armed {h : Handler} (ha : a.client.Armed) (hb : a.Handles h b) :
    b.client.Armed ∧
      b.client.wakeUpRequested = (a.client.wakeUpRequested || (Input.run h).isRegistered) := by
  cases hb with
  | clientEvent _ h => exact pdmcEventHandler_armed ha h
  | taskletEvent _ _ hclicked =>
    obtain ⟨_, _, _, _, rfl, -⟩ := hclicked
    exact ⟨ha, (Bool.or_false _).symm⟩
  | blinkExecute => exact ⟨ha.congr rfl rfl, (Bool.or_false _).symm⟩
  | _ => exact ⟨ha, (Bool.or_false _).symm⟩

/-- A wake-up event that is delivered leaves the timer armed for the next. -/
theorem wakeUp_armed (ha : a.client.Armed) (hpending : .wake ∈ a.client.wakePending)
    (h : { a with client := { a.client with
      wakePending := a.client.wakePending.erase .wake } }.wakeUp env = .ok b) :
    b.client.Armed ∧ b.client.wakeUpRequested = true ∧ a.client.wakeUpRequested = true := by
  have hpos : 0 < a.client.wakePending.count .wake := List.count_pos_iff.mpr hpending
  have hreq : a.client.wakeUpRequested = true := by
    by_contra hno
    rw [Client.Armed, if_neg hno] at ha
    omega
  obtain ⟨client, hclient, hb⟩ := wakeUp_spec h
  subst hb
  -- the flag is cleared for the event delivered, and no other is pending
  have hc : { a.client with wakePending := a.client.wakePending.erase .wake,
                            wakeUpRequested := false : Client }.Armed := by
    rw [Client.Armed, if_pos hreq] at ha
    show (a.client.wakePending.erase .wake).count .wake = 0
    rw [List.count_erase_self, ha]
  obtain ⟨harmed, hset⟩ := Client.requestNextWakeUp_armed hc hclient
  exact ⟨harmed, hset, hreq⟩

end App

namespace Device

variable {d t : Device} {i : Input}

/-- Every step keeps the timer as it is, and a registration arms it. -/
theorem step_armed (h : d.step i = .ok t) (hd : d.app.client.Armed) :
    t.app.client.Armed ∧
      t.app.client.wakeUpRequested = (d.app.client.wakeUpRequested || i.isRegistered) := by
  cases steps_of_step h with
  | run _ hhandles => exact hhandles.armed hd
  | wakeUpInit =>
    refine ⟨?_, (Bool.or_false _).symm⟩
    show (d.app.client.wakePending.erase .init).count .wake = _
    rw [List.count_erase_of_ne (by decide)]
    exact hd
  | wakeUpAwake _ hpending hwake =>
    obtain ⟨harmed, hset, hreq⟩ := App.wakeUp_armed hd hpending hwake
    refine ⟨harmed, ?_⟩
    rw [hset, hreq, Bool.true_or]
  | wakeUpPaused _ hpending hwake =>
    obtain ⟨harmed, hset, hreq⟩ := App.wakeUp_armed hd hpending hwake
    refine ⟨harmed.congr rfl rfl, ?_⟩
    rw [hreq, Bool.true_or]
    exact hset
  | retries _ hretry =>
    obtain ⟨-, -, rfl⟩ := App.retryInitConnection_eq_ok hretry
    exact ⟨hd.congr rfl rfl, (Bool.or_false _).symm⟩
  | @initPdmcClient env =>
    obtain ⟨counter, registry, hspec⟩ := App.initPdmcClient_spec env d.app
    rw [hspec]
    exact ⟨hd.congr rfl rfl, (Bool.or_false _).symm⟩
  | _ => exact ⟨hd.congr rfl rfl, (Bool.or_false _).symm⟩

/-- **The timer runs from the first registration on.** -/
theorem run_wakeUpRequested {defaultInstance : Option NetworkInterface} {is : List Input}
    (hrun : run step (boot defaultInstance) is = .ok t) :
    t.app.client.Armed ∧ t.app.client.wakeUpRequested = is.any Input.isRegistered := by
  have hboot : (boot defaultInstance).app.client.Armed := rfl
  refine run_induction (P := fun is (t : Device) => t.app.client.Armed ∧
    t.app.client.wakeUpRequested = is.any Input.isRegistered) ⟨hboot, rfl⟩ ?_ hrun
  intro is d i t _ hind h
  obtain ⟨harmed, hreq⟩ := hind
  obtain ⟨harmed', hreq'⟩ := step_armed h harmed
  refine ⟨harmed', ?_⟩
  rw [hreq', hreq, List.any_append]
  simp

end Device

/-! ### Sleeps and resumes -/

namespace App

/-- The calls of `sleep_callback_function` made so far. -/
def sleeps (a : App) : ℕ := a.log.count .sleepCallback

/-- The calls of `pdmc_client_resume` made so far. -/
def resumes (a : App) : ℕ := a.log.count .clientResume

/-- What does not concern the connection makes no call that does. -/
theorem countP_log_of_local {a b : App} (h : Local a b) {p : Call → Bool}
    (hp : ∀ c, p c = true → c.isNetwork = true) : b.log.countP p = a.log.countP p := by
  obtain ⟨calls, hlog, hcalls⟩ := h.log
  have hnone : calls.countP p = 0 := by
    refine List.countP_eq_zero.mpr fun c hmem hc => ?_
    have hnetwork := hp c hc
    rw [hcalls c hmem] at hnetwork
    exact absurd hnetwork (by decide)
  rw [hlog, List.countP_append, hnone, Nat.zero_add]

/-- So it is neither a sleep nor a resume. -/
theorem count_log_of_local {a b : App} (h : Local a b) {c : Call} (hc : c.isNetwork = true) :
    b.log.count c = a.log.count c :=
  countP_log_of_local h fun c' hc' => by rwa [eq_of_beq hc']

theorem enterSleep_sleeps (a : App) : a.enterSleep.sleeps = a.sleeps + 1 :=
  (List.count_cons_of_ne (by decide)).trans List.count_cons_self

theorem enterSleep_resumes (a : App) : a.enterSleep.resumes = a.resumes :=
  (List.count_cons_of_ne (by decide)).trans (List.count_cons_of_ne (by decide))

theorem enterResume_sleeps (a : App) : a.enterResume.sleeps = a.sleeps :=
  List.count_cons_of_ne (by decide)

theorem enterResume_resumes (a : App) : a.enterResume.resumes = a.resumes + 1 :=
  List.count_cons_self

/-- Arming the timer again is neither a sleep nor a resume, and leaves the client as
awake as it was. -/
theorem wakeUp_asleep {a b : App} {env : Env} (h : a.wakeUp env = .ok b) :
    b.sleeps = a.sleeps ∧ b.resumes = a.resumes ∧ b.client.paused = a.client.paused := by
  obtain ⟨_, _, _, hb⟩ := wakeUp_keeps h
  rw [hb]
  exact ⟨rfl, rfl, rfl⟩

end App

/-- The client asks to sleep. -/
def Input.isSleep : Input → Bool
  | .sleep => true
  | _ => false

namespace Device

variable {d t : Device} {i : Input}

/-- The sleeps that are not over: the client is paused, or a sleep is going on. -/
def asleep (d : Device) : ℕ := (if d.app.client.paused then 1 else 0) + d.stack.count .sleep

/-- A step that makes no resume, and leaves the client and the sleeps going on, is one
that ends no sleep. -/
theorem resumes_asleep_le (n : ℕ) (hresumes : t.app.resumes = d.app.resumes)
    (hpaused : t.app.client.paused = d.app.client.paused)
    (hstack : t.stack.count .sleep = d.stack.count .sleep) :
    t.app.resumes + t.asleep ≤ d.app.resumes + d.asleep + n := by
  rw [asleep, hresumes, hpaused, hstack, ← asleep]
  omega

/-- `init_connection()` is not a sleep. -/
theorem count_settle_stack (caller : Caller) (timeoutMs : ℤ) (a : App) (stack : List Frame)
    (next : Net × ConnNext) :
    (settle caller timeoutMs a stack next).stack.count .sleep = stack.count .sleep := by
  have hne : Frame.ofNext caller timeoutMs next.2 ≠ .sleep := by
    cases next.2 with
    | waits p => simp [Frame.ofNext]
    | returned b => cases b <;> simp [Frame.ofNext]
  exact List.count_cons_of_ne hne

/-- A sleep is what the client asks for, and nothing else. -/
theorem step_sleeps (h : d.step i = .ok t) :
    t.app.sleeps = d.app.sleeps + if i.isSleep then 1 else 0 := by
  cases steps_of_step h with
  | run _ hhandles => exact App.count_log_of_local (Local.handles hhandles) rfl
  | wakeUpAwake _ _ hwake => exact (App.wakeUp_asleep hwake).1
  | @wakeUpPaused env a _ _ hwake =>
    have hsleeps : a.sleeps = d.app.sleeps := (App.wakeUp_asleep hwake).1
    show a.enterResume.sleeps = d.app.sleeps
    rw [a.enterResume_sleeps, hsleeps]
  | sleepWaits => exact d.app.enterSleep_sleeps
  | sleepReturns => exact d.app.enterSleep_sleeps
  | retries _ hretry =>
    obtain ⟨-, -, rfl⟩ := App.retryInitConnection_eq_ok hretry
    rfl
  | resumes => exact List.count_cons_of_ne (by simp)
  | @initPdmcClient env =>
    obtain ⟨counter, registry, hspec⟩ := App.initPdmcClient_spec env d.app
    rw [hspec]
    rfl
  | _ => rfl

/-- A resume ends a sleep, and only the client starts one. -/
theorem step_resumes (h : d.step i = .ok t) :
    t.app.resumes + t.asleep ≤ d.app.resumes + d.asleep + if i.isSleep then 1 else 0 := by
  cases steps_of_step h with
  | run _ hhandles =>
    have hlocal := Local.handles hhandles
    have hresumes := App.count_log_of_local hlocal (c := .clientResume) rfl
    exact resumes_asleep_le _ hresumes hlocal.paused rfl
  | wakeUpAwake _ _ hwake =>
    obtain ⟨-, hresumes, hpaused⟩ := App.wakeUp_asleep hwake
    exact resumes_asleep_le _ hresumes hpaused rfl
  | @wakeUpPaused env a _ _ hwake hpaused =>
    -- the sleep that paused the client is the one that ends
    obtain ⟨-, hbefore, hsame⟩ := App.wakeUp_asleep hwake
    have hbefore' : d.app.client.paused = true := hsame.symm.trans hpaused
    have hresumes : a.enterResume.resumes = d.app.resumes + 1 := by
      rw [a.enterResume_resumes, hbefore]
      rfl
    rw [asleep, asleep, if_pos hbefore', attempt, count_settle_stack]
    show a.enterResume.resumes + (0 + d.stack.count .sleep) ≤ _
    rw [hresumes]
    omega
  | sleepWaits =>
    show d.app.enterSleep.resumes + ((if d.app.client.paused then 1 else 0) +
      (Frame.sleep :: d.stack).count .sleep) ≤ d.app.resumes + d.asleep + 1
    rw [d.app.enterSleep_resumes, List.count_cons_self, asleep]
    omega
  | sleepReturns =>
    -- a client that is paused already is none the more asleep
    show d.app.enterSleep.resumes + (1 + d.stack.count .sleep) ≤
      d.app.resumes + d.asleep + 1
    rw [d.app.enterSleep_resumes, asleep]
    omega
  | connects hstack =>
    refine resumes_asleep_le _ rfl rfl ?_
    rw [count_settle_stack, hstack]
    exact (List.count_cons_of_ne (by simp)).symm
  | retries hstack hretry =>
    obtain ⟨-, -, rfl⟩ := App.retryInitConnection_eq_ok hretry
    refine resumes_asleep_le _ rfl rfl ?_
    rw [attempt, count_settle_stack, hstack]
    exact (List.count_cons_of_ne (by simp)).symm
  | resumes hstack =>
    refine resumes_asleep_le _ (List.count_cons_of_ne (by simp)) rfl ?_
    rw [hstack]
    exact (List.count_cons_of_ne (by simp)).symm
  | @sleeps stack err hstack =>
    rw [asleep, asleep, hstack, List.count_cons_self]
    show d.app.resumes + (1 + stack.count .sleep) ≤ _
    omega
  | @initPdmcClient env stack hstack =>
    obtain ⟨counter, registry, hspec⟩ := App.initPdmcClient_spec env d.app
    rw [hspec]
    refine resumes_asleep_le _ rfl rfl ?_
    rw [hstack]
    rfl
  | _ => exact resumes_asleep_le _ rfl rfl rfl

/-- **Every resume, and every sleep that is not over, has a sleep of its own.** -/
theorem run_sleeps {defaultInstance : Option NetworkInterface} {is : List Input}
    (hrun : run step (boot defaultInstance) is = .ok t) :
    t.app.sleeps = is.countP Input.isSleep ∧ t.app.resumes + t.asleep ≤ t.app.sleeps := by
  have hboot : (boot defaultInstance).asleep = 0 := by
    rw [asleep, boot, attempt, count_settle_stack]
    rfl
  refine run_induction (P := fun is (t : Device) => t.app.sleeps = is.countP Input.isSleep ∧
    t.app.resumes + t.asleep ≤ t.app.sleeps) ⟨rfl, ?_⟩ ?_ hrun
  · rw [hboot]
    exact Nat.le_refl _
  · intro is d i t _ hind h
    obtain ⟨hcount, hle⟩ := hind
    have hsleeps := step_sleeps h
    have hresumes := step_resumes h
    refine ⟨?_, by omega⟩
    rw [hsleeps, hcount, List.countP_append, List.countP_singleton]

end Device

/-! ### The client is woken up -/

/-- Once an OBJECT_REGISTERED event has been handled, `wake_up_requested` is set and exactly
one wake-up event is pending; one is pending whenever the client is paused; and there
have been no more resumes than sleeps. -/
structure WokenUp (is : List Input) (d : Device) : Prop where
  registered : is.any Input.isRegistered = true →
    d.app.client.wakeUpRequested = true ∧ d.app.client.wakePending.count .wake = 1
  paused : d.app.client.paused = true → d.app.client.wakePending.count .wake = 1
  resumes : d.app.resumes ≤ d.app.sleeps

/-- **The wake-up timer neither dies nor multiplies, and resumes match sleeps**, in every
run in which the client asks to sleep only after it has been registered. -/
theorem always_wokenUp (defaultInstance : Option NetworkInterface) (is : List Input)
    (hsleep : ∀ pre, pre ++ [.sleep] <+: is → pre.any Input.isRegistered = true) :
    Always Device.step (.boot defaultInstance) is WokenUp := by
  intro pre t hpre ht
  obtain ⟨harmed, hrequested⟩ := Device.run_wakeUpRequested ht
  obtain ⟨hsleeps, hle⟩ := Device.run_sleeps ht
  have hregistered : pre.any Input.isRegistered = true →
      t.app.client.wakeUpRequested = true ∧ t.app.client.wakePending.count .wake = 1 := by
    intro hreg
    rw [hreg] at hrequested
    rw [Client.Armed, if_pos hrequested] at harmed
    exact ⟨hrequested, harmed⟩
  refine ⟨hregistered, ?_, by omega⟩
  intro hpaused
  -- a paused client has been put to sleep, so it had been registered
  rw [Device.asleep, if_pos hpaused] at hle
  have hpos : 0 < pre.countP Input.isSleep := by omega
  obtain ⟨i, hi, hsleepi⟩ := List.countP_pos_iff.mp hpos
  have hi' : i = .sleep := by
    cases i <;> first | rfl | simp [Input.isSleep] at hsleepi
  obtain ⟨before, after, hsplit⟩ := List.append_of_mem hi
  rw [hi'] at hsplit
  have hbefore : before ++ [.sleep] <+: pre := ⟨after, by simp [hsplit]⟩
  have hreg := hsleep before (hbefore.trans hpre)
  refine (hregistered ?_).2
  rw [hsplit, List.any_append, hreg, Bool.true_or]

/-- A client that sleeps once, and is woken up. -/
theorem wokenUp_one_sleep :
    ∃ t, run Device.step (.boot (some ⟨0⟩)) (Device.startUp ++ [registered, .sleep,
        .driver (.disconnectReturns .ok), .wakeUp {} .wake]) = .ok t ∧
      WokenUp (Device.startUp ++ [registered, .sleep, .driver (.disconnectReturns .ok),
        .wakeUp {} .wake]) t := by
  refine ⟨_, rfl, always_wokenUp (some ⟨0⟩) _ ?_ _ _ List.prefix_rfl rfl⟩
  intro pre hpre
  have hfirst : Device.startUp ++ [registered] <+: Device.startUp ++ [registered, .sleep,
      .driver (.disconnectReturns .ok), .wakeUp {} .wake] := ⟨_, rfl⟩
  have hno : Input.sleep ∉ Device.startUp ++ [registered] := by
    simp [Device.startUp, registered]
  rcases List.prefix_or_prefix_of_prefix hpre hfirst with h | h
  · exact absurd (h.subset (by simp)) hno
  · rcases List.prefix_concat_iff.mp h with h | ⟨after, rfl⟩
    · exact absurd (by simp [h]) hno
    · rw [List.any_append]
      rfl

end PelionClientLite
