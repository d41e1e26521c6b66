import PelionClientLite.Connection
import PelionClientLite.Device

/-!
# The connection of a device

`Connection` knows calls of `init_connection` and `close_connection` that do not overlap.
A device makes these calls from three places, and one of them may begin while another
dispatches.  As long as that does not happen, its connection is the machine of
`Connection`, and what is known of that machine is known of the device.

## Main definitions

* `Device.netControl`, `Device.netInput` — the call in progress, and what the connection
  sees of a step.
* `Overlaps` — a call begins inside another.

## Main results

* `Device.IsConnection.step` — a step that does not overlap is one of the connection.
* `device_connection_iff` — **the connection of a device is that machine exactly as long as
  no call begins inside another.**
-/

namespace PelionClientLite

open Machine

namespace Device

/-! ### What the connection sees -/

/-- The call of `setup.cpp` in progress: the one on top of the stack. -/
def netControl (d : Device) : NetControl :=
  match d.stack with
  | .attempt _ _ p :: _ => .connecting p
  | .sleep :: _ => .closing
  | _ => .idle

/-- What a step is to the connection. -/
def netInput (d : Device) : Input → Option NetInput
  | .status event status => some (.status event status)
  | .wakeUp _ .wake => if d.app.client.paused then some (.initConnection (-1)) else none
  | .sleep => some .closeConnection
  | .driver r =>
      match d.stack with
      | .attempt _ _ _ :: _ => some (.driver r)
      | .sleep :: _ => some (.driver r)
      -- the loop of `init_connection()` calls again
      | .backOff _ _ :: _ => some (.initConnection (-1))
      | _ => none
  | _ => none

end Device

/-- A call of `init_connection` or `close_connection` begins while another is in progress. -/
inductive Overlaps (d : Device) : Input → Prop where
  | sleep (hbusy : d.netControl ≠ .idle) : Overlaps d .sleep
  | resume {env : Env} (hbusy : d.netControl ≠ .idle) (hpaused : d.app.client.paused = true) :
      Overlaps d (.wakeUp env .wake)

namespace Device

variable {d t : Device} {i : Input} {s : NetState}

theorem netControl_settle (caller : Caller) (timeoutMs : ℤ) (a : App) (stack : List Frame)
    (next : Net × ConnNext) :
    (settle caller timeoutMs a stack next).netControl = (NetState.enter next).control := by
  obtain ⟨n, p | b⟩ := next
  · rfl
  · cases b <;> rfl

theorem enter_net (next : Net × ConnNext) : (NetState.enter next).net = next.1 := by
  obtain ⟨n, p | b⟩ := next <;> rfl

/-- The connection of the device is in this state, and nothing but the loop of `main` waits
below the call in progress. -/
structure IsConnection (d : Device) (s : NetState) : Prop where
  net : s.net = d.app.net
  control : s.control = d.netControl
  below : ∀ f ∈ d.stack.tail, f = .mainLoop

/-- A step the connection does not see. -/
theorem IsConnection.keep (hd : d.IsConnection s) (hnet : t.app.net = d.app.net)
    (hcontrol : t.netControl = d.netControl) (hbelow : ∀ f ∈ t.stack.tail, f = .mainLoop) :
    t.IsConnection s where
  net := hd.net.trans hnet.symm
  control := hd.control.trans hcontrol.symm
  below := hbelow

/-- `init_connection(-1)` runs on, or is called. -/
theorem isConnection_settle {caller : Caller} {timeoutMs : ℤ} {a : App} {stack : List Frame}
    {next : Net × ConnNext} (hbelow : ∀ f ∈ stack, f = .mainLoop) :
    (settle caller timeoutMs a stack next).IsConnection (.enter next) where
  net := enter_net next
  control := (netControl_settle ..).symm
  below := hbelow

/-- Where no call is in progress, and yet the queue is dispatched, it is by `main`. -/
theorem IsConnection.all_mainLoop (hd : d.IsConnection s) (hdispatch : d.dispatches = true)
    (hidle : d.netControl = .idle) : ∀ f ∈ d.stack, f = .mainLoop := by
  have hbelow := hd.below
  unfold dispatches at hdispatch
  unfold netControl at hidle
  cases hstack : d.stack with
  | nil => simp
  | cons f stack =>
    rw [hstack] at hdispatch hidle hbelow
    rw [List.forall_mem_cons]
    refine ⟨?_, hbelow⟩
    cases f with
    | mainLoop => rfl
    | attempt caller timeoutMs p => simp at hidle
    | sleep => simp at hidle
    | backOff caller timeoutMs => simp [Frame.dispatches] at hdispatch
    | connected caller => simp [Frame.dispatches] at hdispatch

/-- Where nothing but the loop of `main` waits, no call is in progress. -/
theorem netControl_eq_idle (h : ∀ f ∈ d.stack, f = .mainLoop) : d.netControl = .idle := by
  unfold netControl
  cases hstack : d.stack with
  | nil => rfl
  | cons f stack =>
    rw [hstack, List.forall_mem_cons] at h
    rw [h.1]

/-! ### One step -/

/-- `init_connection` is called where no call is in progress. -/
theorem IsConnection.call (hd : d.IsConnection s) (hidle : d.netControl = .idle) :
    s.step (.initConnection (-1)) = .ok (.enter (d.app.net.initConnection (-1))) := by
  rw [NetState.step, if_pos (hd.control.trans hidle), hd.net]

/-- **A step that does not overlap is one of the connection**, or is not seen by it. -/
theorem IsConnection.step (hd : d.IsConnection s) (hno : ¬ Overlaps d i)
    (h : d.step i = .ok t) :
    (d.netInput i = none ∧ t.IsConnection s) ∨
      ∃ j u, d.netInput i = some j ∧ s.step j = .ok u ∧ t.IsConnection u := by
  cases steps_of_step h with
  | @status event status hlisten =>
    refine Or.inr ⟨.status event status,
      { s with net := d.app.net.networkStatusCallback event status }, rfl, ?_, ?_⟩
    · rw [NetState.step, hd.net, if_neg hlisten]
    · exact ⟨rfl, hd.control, hd.below⟩
  | press => exact Or.inl ⟨rfl, hd.keep rfl rfl hd.below⟩
  | run _ hhandles => exact Or.inl ⟨rfl, hd.keep (Local.handles hhandles).net rfl hd.below⟩
  | wakeUpInit => exact Or.inl ⟨rfl, hd.keep rfl rfl hd.below⟩
  | wakeUpAwake _ _ hwake hawake =>
    obtain ⟨handler, pending, requested, rfl⟩ := App.wakeUp_keeps hwake
    have hnone : d.app.client.paused = false := hawake
    exact Or.inl ⟨by simp [netInput, hnone], hd.keep rfl rfl hd.below⟩
  | wakeUpPaused hdispatch _ hwake hpaused =>
    obtain ⟨handler, pending, requested, rfl⟩ := App.wakeUp_keeps hwake
    have hasleep : d.app.client.paused = true := hpaused
    have hidle : d.netControl = .idle := by
      by_contra hbusy
      exact hno (.resume hbusy hasleep)
    refine Or.inr ⟨.initConnection (-1), _, by simp [netInput, hasleep], hd.call hidle, ?_⟩
    exact isConnection_settle (hd.all_mainLoop hdispatch hidle)
  | sleepWaits hdispatch hclose =>
    have hidle : d.netControl = .idle := by
      by_contra hbusy
      exact hno (.sleep hbusy)
    refine Or.inr ⟨.closeConnection, { s with control := .closing }, rfl, ?_, ?_⟩
    · have hclose' : s.net.closeConnection = none := hd.net ▸ hclose
      simp only [NetState.step, if_pos (hd.control.trans hidle), hclose']
    · exact ⟨hd.net, rfl, hd.all_mainLoop hdispatch hidle⟩
  | @sleepReturns closed hdispatch hclose =>
    have hidle : d.netControl = .idle := by
      by_contra hbusy
      exact hno (.sleep hbusy)
    refine Or.inr ⟨.closeConnection, { net := s.net, returned := some closed }, rfl, ?_, ?_⟩
    · have hclose' : s.net.closeConnection = some closed := hd.net ▸ hclose
      simp only [NetState.step, if_pos (hd.control.trans hidle), hclose']
    · exact ⟨hd.net, hidle.symm, hd.below⟩
  | @connects caller timeoutMs p stack r next hstack hconn =>
    have hbelow := hd.below
    have hcontrol := hd.control
    rw [hstack] at hbelow
    rw [netControl, hstack] at hcontrol
    refine Or.inr ⟨.driver r, .enter next, by rw [netInput, hstack], ?_, isConnection_settle hbelow⟩
    simp only [NetState.step, hcontrol, hd.net, hconn, ok_bind, pure_eq_ok]
  | @retries caller timeoutMs timeoutMs' stack a hstack hretry =>
    have hbelow := hd.below
    rw [hstack] at hbelow
    have hidle : d.netControl = .idle := by rw [netControl, hstack]
    obtain ⟨-, -, rfl⟩ := App.retryInitConnection_eq_ok hretry
    exact Or.inr ⟨.initConnection (-1), _, by rw [netInput, hstack], hd.call hidle,
      isConnection_settle hbelow⟩
  | @resumes stack hstack =>
    have hbelow := hd.below
    rw [hstack] at hbelow
    refine Or.inl ⟨by rw [netInput, hstack], hd.keep rfl ?_ ?_⟩
    · rw [netControl_eq_idle hbelow, netControl, hstack]
    · exact fun f hf => hbelow f (List.mem_of_mem_tail hf)
  | @sleeps stack err hstack =>
    have hbelow := hd.below
    have hcontrol := hd.control
    rw [hstack] at hbelow
    rw [netControl, hstack] at hcontrol
    refine Or.inr ⟨.driver (.disconnectReturns err),
      { net := (d.app.net.closeStep err).1, returned := some (d.app.net.closeStep err).2 },
      by rw [netInput, hstack], ?_, ?_⟩
    · simp only [NetState.step, hcontrol, hd.net]
    · exact ⟨rfl, (netControl_eq_idle hbelow).symm,
        fun f hf => hbelow f (List.mem_of_mem_tail hf)⟩
  | @initPdmcClient env stack hstack =>
    have hbelow := hd.below
    rw [hstack] at hbelow
    refine Or.inl ⟨rfl, hd.keep ?_ ?_ ?_⟩
    · obtain ⟨counter, registry, hspec⟩ := App.initPdmcClient_spec env d.app
      rw [hspec]
    · rw [netControl, netControl, hstack]
    · exact hbelow

/-- A call that overlaps is refused by the connection. -/
theorem IsConnection.refused (hd : d.IsConnection s) (ho : Overlaps d i) :
    ∃ j, d.netInput i = some j ∧ s.step j = .error .refused := by
  cases ho with
  | sleep hbusy =>
    refine ⟨.closeConnection, rfl, ?_⟩
    rw [NetState.step, if_neg]
    exact hd.control ▸ hbusy
  | resume hbusy hpaused =>
    refine ⟨.initConnection (-1), by simp [netInput, hpaused], ?_⟩
    rw [NetState.step, if_neg]
    exact hd.control ▸ hbusy

end Device

/-- **The connection of a device is that machine exactly as long as no call begins inside
another.**  Then the calls of `init_connection` and `close_connection` that the device makes,
from whatever place, are calls of the machine of `Connection`, with the same variables and
the same call in progress. -/
theorem device_connection_iff (defaultInstance : Option NetworkInterface) (is : List Input) :
    (Always Device.step (.boot defaultInstance) is fun pre d =>
        ∃ s, run NetState.step { net := { defaultInstance } } (.initConnection (-1) ::
            seen Device.step Device.netInput (.boot defaultInstance) pre) = .ok s ∧
          s.net = d.app.net ∧ s.control = d.netControl) ↔
      EachStep Device.step (.boot defaultInstance) is fun _ d i =>
        Overlaps d i → ∀ t, d.step i ≠ .ok t := by
  have hboot : ({ net := { defaultInstance } } : NetState).step (.initConnection (-1)) =
      .ok (.enter (({ defaultInstance } : Net).initConnection (-1))) := rfl
  refine always_iff (fun pre d => run Device.step (.boot defaultInstance) pre = .ok d ∧
    ∃ s, run NetState.step { net := { defaultInstance } } (.initConnection (-1) ::
      seen Device.step Device.netInput (.boot defaultInstance) pre) = .ok s ∧
        d.IsConnection s) ?_ ?_ ?_ ?_ ?_
  · exact ⟨rfl, _, hboot, Device.isConnection_settle (by simp)⟩
  · rintro pre d i t - ⟨hpre, s, hrun, hd⟩ hno hstep
    refine ⟨run_concat_eq_ok.mpr ⟨d, hpre, hstep⟩, ?_⟩
    rw [seen_concat hpre hstep]
    rcases hd.step (fun ho => hno ho t hstep) hstep with ⟨hnone, ht⟩ | ⟨j, u, hj, hu, ht⟩
    · exact ⟨s, by rw [hnone, Option.toList_none, List.append_nil, hrun], ht⟩
    · refine ⟨u, ?_, ht⟩
      rw [hj, Option.toList_some, ← List.cons_append]
      exact run_concat_eq_ok.mpr ⟨s, hrun, hu⟩
  · rintro pre d ⟨-, s, hrun, hd⟩
    exact ⟨s, hrun, hd.net, hd.control⟩
  · rintro pre d i t - ⟨hpre, s, hrun, hd⟩ hstep ⟨u, hu, -⟩ ho
    -- the connection refuses a call that overlaps, and here it has taken it
    obtain ⟨j, hj, hrefused⟩ := hd.refused ho
    rw [seen_concat hpre hstep, hj, Option.toList_some, ← List.cons_append] at hu
    obtain ⟨s', hs', hstep'⟩ := run_concat_eq_ok.mp hu
    rw [hrun, Except.ok.injEq] at hs'
    rw [← hs', hrefused] at hstep'
    simp at hstep'
  · intro pre d i _ _ hstop _
    exact hstop

end PelionClientLite
