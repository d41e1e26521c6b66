import PelionClientLite.Link

/-!
# Setting up the connection

`init_connection(int8_t)` and `close_connection` as a machine: calls that do not
overlap, answers of the driver, and status events delivered at any time while the
callback is installed.

The callback ends the dispatch of `init_connection` only if it finds
`dispatch_called` set, which happens after `connect()` has returned.  A status
delivered before that is not lost on `interface_connected`, but nothing ends the
dispatch any more.

## Main definitions

* `NetState`, `NetState.step` — the machine.
* `NetState.Steps` — what a step can be.
* `NothingMissed` — inside `dispatch_forever()`, nothing has come since
  `connect()` that should end it, or the break has been requested.
* `NothingEarly` — when `dispatch_called` is set, there is nothing to miss yet.

## Main results

* `NetState.step_tellsLink` — in `init_connection`, `interface_connected` says what was
  last heard of the link.
* `nothingMissed_iff` — **no terminal status is missed exactly when none comes
  before `dispatch_called` is set.**
-/

namespace PelionClientLite

open Machine

/-! ### The machine -/

/-- Which call is in progress, and where it waits. -/
inductive NetControl where
  /-- None: the main loop dispatches. -/
  | idle
  /-- `init_connection`. -/
  | connecting (p : ConnPoint)
  /-- `close_connection`, in `disconnect()`. -/
  | closing
  deriving DecidableEq, Repr

/-- The variables, the call in progress, and what the last one returned. -/
structure NetState where
  net : Net
  control : NetControl := .idle
  returned : Option Bool := none

/-- What may happen to the connection. -/
inductive NetInput where
  | initConnection (id : ℤ)
  | closeConnection
  | status (event : NsapiEvent) (status : NsapiStatus)
  | driver (r : DriverInput)

namespace NetState

/-- `init_connection` waits again, or returns. -/
def enter : Net × ConnNext → NetState
  | (n, .waits p) => { net := n, control := .connecting p }
  | (n, .returned b) => { net := n, returned := some b }

/-- One step of the connection. -/
def step (s : NetState) : NetInput → Except Stop NetState
  | .initConnection id =>
      if s.control = .idle then .ok (enter (s.net.initConnection id)) else .error .refused
  | .closeConnection =>
      if s.control = .idle then
        match s.net.closeConnection with
        | none => .ok { s with control := .closing }
        | some b => .ok { net := s.net, returned := some b }
      else .error .refused
  | .status event status =>
      if s.net.listeners = 0 then .error .refused
      else .ok { s with net := s.net.networkStatusCallback event status }
  | .driver r =>
      match s.control, r with
      | .connecting p, r => do
          let next ← s.net.connStep p r
          return enter next
      | .closing, .disconnectReturns err =>
          let (n, b) := s.net.closeStep err
          .ok { net := n, returned := some b }
      | _, _ => .error .refused

variable {s t : NetState} {i : NetInput}

/-- What a step of the connection can be. -/
inductive Steps (s : NetState) : NetInput → NetState → Prop where
  | initConnection (id : ℤ) (hidle : s.control = .idle) :
      Steps s (.initConnection id) (enter (s.net.initConnection id))
  | closes (hidle : s.control = .idle) : Steps s .closeConnection { s with control := .closing }
  | nothingToClose (hidle : s.control = .idle) (b : Bool) :
      Steps s .closeConnection { net := s.net, returned := some b }
  | status (event : NsapiEvent) (status : NsapiStatus) (hlisten : s.net.listeners ≠ 0) :
      Steps s (.status event status) { s with net := s.net.networkStatusCallback event status }
  | driver {p : ConnPoint} {r : DriverInput} {n : Net} {next : ConnNext}
      (hp : s.control = .connecting p) (hconn : s.net.connStep p r = .ok (n, next)) :
      Steps s (.driver r) (enter (n, next))
  | closed (err : NsapiError) (hclosing : s.control = .closing) :
      Steps s (.driver (.disconnectReturns err))
        { net := (s.net.closeStep err).1, returned := some (s.net.closeStep err).2 }

theorem steps_of_step (h : s.step i = .ok t) : s.Steps i t := by
  cases i with
  | initConnection id =>
    simp only [step] at h
    split at h
    · next hidle =>
      rw [Except.ok.injEq] at h
      exact h ▸ .initConnection id hidle
    · simp at h
  | closeConnection =>
    simp only [step] at h
    split at h
    · next hidle =>
      split at h
      · rw [Except.ok.injEq] at h
        exact h ▸ .closes hidle
      · next b _ =>
        rw [Except.ok.injEq] at h
        exact h ▸ .nothingToClose hidle b
    · simp at h
  | status event status =>
    simp only [step] at h
    split at h
    · simp at h
    · next hlisten =>
      rw [Except.ok.injEq] at h
      exact h ▸ .status event status hlisten
  | driver r =>
    simp only [step] at h
    split at h
    · next p hp =>
      obtain ⟨⟨n, next⟩, hstep, rfl⟩ := bind_pure_eq_ok.mp h
      exact .driver hp hstep
    · next err hclosing =>
      rw [Except.ok.injEq] at h
      exact h ▸ .closed err hclosing
    · simp at h

end NetState

/-! ### What has come since -/

/-- The status is one that `init_connection` waits for. -/
def NetEntry.isTerminal : NetEntry → Bool
  | .status .connectionStatusChange .globalUp => true
  | .status .connectionStatusChange .disconnected => true
  | _ => false

namespace Net

/-- What has happened since the last `connect()` was called, newest first. -/
def sinceConnect (n : Net) : List NetEntry := n.log.takeWhile (· != .connect)

/-- What has happened since `dispatch_called` was last set, newest first. -/
def sinceDispatch (n : Net) : List NetEntry := n.log.takeWhile (· != .dispatchForever)

/-- A GLOBAL_UP or DISCONNECTED has been delivered since the last `connect()`. -/
def TerminalSinceConnect (n : Net) : Prop := ∃ e ∈ n.sinceConnect, e.isTerminal = true

/-- `break_dispatch()` has been requested for the dispatch entered last. -/
def BreakForDispatch (n : Net) : Prop := .breakDispatch ∈ n.sinceDispatch

instance (n : Net) : Decidable n.TerminalSinceConnect :=
  inferInstanceAs (Decidable (∃ e ∈ n.sinceConnect, e.isTerminal = true))

instance (n : Net) : Decidable n.BreakForDispatch :=
  inferInstanceAs (Decidable (_ ∈ n.sinceDispatch))

/-- What is known while `init_connection` dispatches: nothing has come that should
end the dispatch and the callback can still end it, or it has been ended. -/
def Waiting (n : Net) : Prop :=
  (n.dispatchCalled = true ∧ ¬ n.TerminalSinceConnect ∧ n.interfaceConnected = false) ∨
    n.BreakForDispatch

/-! ### What the callback keeps -/

theorem BreakForDispatch.record {n : Net} (h : n.BreakForDispatch) {e : NetEntry}
    (he : e ≠ .dispatchForever) : (n.record e).BreakForDispatch := by
  simp only [BreakForDispatch, sinceDispatch, Net.record]
  rw [List.takeWhile_cons_of_pos (by simpa using he)]
  exact List.mem_cons_of_mem _ h

theorem BreakForDispatch.breakDispatch {n : Net} (h : n.BreakForDispatch) :
    n.breakDispatch.BreakForDispatch := by
  unfold Net.breakDispatch
  split
  · exact BreakForDispatch.record (n := { n with dispatchCalled := false, breakRequested := true })
      h (by decide)
  · exact h

theorem BreakForDispatch.sendNetworkEvent {n : Net} (h : n.BreakForDispatch) (e : NetworkEvent) :
    (n.sendNetworkEvent e).BreakForDispatch := by
  unfold Net.sendNetworkEvent
  split
  · exact h
  · exact h.record (by simp)

/-- The callback breaks the dispatch that has set `dispatch_called`. -/
theorem breakForDispatch_of_dispatchCalled {n : Net} (h : n.dispatchCalled = true) :
    n.breakDispatch.BreakForDispatch := by
  rw [Net.breakDispatch, if_pos h, BreakForDispatch, sinceDispatch]
  simp [record]

/-- Another entry is not a terminal status since `connect()`. -/
theorem terminalSinceConnect_record {n : Net} {e : NetEntry} (hconnect : e ≠ .connect)
    (hterminal : e.isTerminal = false) :
    (n.record e).TerminalSinceConnect ↔ n.TerminalSinceConnect := by
  have hsince : (n.record e).sinceConnect = e :: n.sinceConnect :=
    List.takeWhile_cons_of_pos (by simpa using hconnect)
  rw [TerminalSinceConnect, hsince, TerminalSinceConnect]
  constructor
  · intro h
    obtain ⟨e', he', hterm⟩ := h
    rcases List.mem_cons.mp he' with heq | hmem
    · rw [heq, hterminal] at hterm
      exact absurd hterm (by decide)
    · exact ⟨e', hmem, hterm⟩
  · intro h
    obtain ⟨e', he', hterm⟩ := h
    exact ⟨e', List.mem_cons_of_mem _ he', hterm⟩

/-- A dispatch is entered with no break requested for it. -/
theorem not_breakForDispatch_record (n : Net) : ¬ (n.record .dispatchForever).BreakForDispatch := by
  simp [BreakForDispatch, sinceDispatch, Net.record]

theorem Waiting.record {n : Net} (h : n.Waiting) {e : NetEntry} (hconnect : e ≠ .connect)
    (hdispatch : e ≠ .dispatchForever) (hterminal : e.isTerminal = false) :
    (n.record e).Waiting := by
  rcases h with ⟨hcalled, hnone, hdown⟩ | hbreak
  · have hnone' := mt (terminalSinceConnect_record hconnect hterminal).mp hnone
    exact Or.inl ⟨hcalled, hnone', hdown⟩
  · exact Or.inr (hbreak.record hdispatch)

theorem Waiting.sendNetworkEvent {n : Net} (h : n.Waiting) (e : NetworkEvent) :
    (n.sendNetworkEvent e).Waiting := by
  unfold Net.sendNetworkEvent
  split
  · exact h
  · exact h.record (by simp) (by simp) rfl

/-- A terminal status ends the dispatch. -/
theorem Waiting.terminal {n : Net} (h : n.Waiting) (e : NetEntry) (he : e ≠ .dispatchForever)
    (up : Bool) (ev : NetworkEvent) :
    (({ n.record e with interfaceConnected := up }.breakDispatch).sendNetworkEvent ev).Waiting := by
  refine Or.inr (BreakForDispatch.sendNetworkEvent ?_ ev)
  rcases h with ⟨hcalled, -, -⟩ | hbreak
  · exact breakForDispatch_of_dispatchCalled (n := { n.record e with interfaceConnected := up })
      hcalled
  · exact BreakForDispatch.breakDispatch (n := { n.record e with interfaceConnected := up })
      (hbreak.record he)

/-- No status event makes `init_connection` miss another. -/
theorem Waiting.networkStatusCallback {n : Net} (h : n.Waiting) (event : NsapiEvent)
    (status : NsapiStatus) : (n.networkStatusCallback event status).Waiting := by
  cases event with
  | other code => exact h.record (by simp) (by simp) rfl
  | connectionStatusChange =>
    cases status with
    | globalUp => exact h.terminal _ (by simp) true .globalUp
    | disconnected => exact h.terminal _ (by simp) false .disconnected
    | other code => exact h.record (by simp) (by simp) rfl
    | localUp => exact (h.record (by simp) (by simp) rfl).sendNetworkEvent _
    | connecting => exact (h.record (by simp) (by simp) rfl).sendNetworkEvent _
    | errorUnsupported => exact (h.record (by simp) (by simp) rfl).sendNetworkEvent _

/-! ### How a dispatch is entered -/

theorem attempt_ne_dispatch {n n' : Net} {i j : ℕ} {next : ConnNext}
    (h : n.attempt i = .ok (n', next)) : next ≠ .waits (.dispatch j) := by
  rcases attempt_cases h with ⟨-, -, hnext⟩ | ⟨-, hnext⟩ <;> simp [hnext]

theorem attemptBlocking_ne_dispatch {n n' : Net} {i j : ℕ} {next : ConnNext}
    (h : n.attemptBlocking i = .ok (n', next)) : next ≠ .waits (.dispatch j) := by
  rcases attemptBlocking_cases h with ⟨-, -, hnext⟩ | ⟨-, hnext⟩ <;> simp [hnext]

/-- The one way into `dispatch_forever()` is from a `connect()` that has returned. -/
theorem connStep_dispatch {n n' : Net} {p : ConnPoint} {r : DriverInput} {j : ℕ}
    (h : n.connStep p r = .ok (n', .waits (.dispatch j))) :
    p = .connected j ∧ r = .proceed ∧
      n' = { n with dispatchCalled := true }.record .dispatchForever := by
  cases connSteps_of_connStep h with
  | nonBlocking h => exact absurd rfl (attempt_ne_dispatch h)
  | blocking _ h => exact absurd rfl (attemptBlocking_ne_dispatch h)
  | retries h => exact absurd rfl (attempt_ne_dispatch h)
  | retriesBlocking h => exact absurd rfl (attemptBlocking_ne_dispatch h)
  | dispatches => exact ⟨rfl, rfl, rfl⟩

end Net

/-! ### Nothing is missed -/

/-- Inside `dispatch_forever()`, no GLOBAL_UP and no DISCONNECTED has been delivered
since the attempt's `connect()` was called, or the break of this dispatch has been
requested; and with `interface_connected` set it has been requested. -/
def NothingMissed (s : NetState) : Prop :=
  ∀ i, s.control = .connecting (.dispatch i) →
    (¬ s.net.TerminalSinceConnect ∨ s.net.BreakForDispatch) ∧
      (s.net.interfaceConnected = true → s.net.BreakForDispatch)

/-- When `dispatch_called` is about to be set, no GLOBAL_UP and no DISCONNECTED has
been delivered since the attempt's `connect()` was called, and before that, since the call
began, the link was not last heard of as up. -/
def NothingEarly (s : NetState) (i : NetInput) : Prop :=
  ∀ k, s.control = .connecting (.connected k) → i = .driver .proceed →
    ¬ s.net.TerminalSinceConnect ∧ s.net.linkUp = false

/-- Inside `init_connection`, the flag says what was last heard of the link. -/
def TellsLink (s : NetState) : Prop :=
  ∀ p, s.control = .connecting p → s.net.TellsLink

/-- A dispatch in progress is waited for, if it was entered with nothing to miss. -/
def DispatchWaits (s : NetState) : Prop :=
  ∀ i, s.control = .connecting (.dispatch i) → s.net.Waiting

namespace NetState

/-- A step that leaves `init_connection` in a dispatch either delivers a status to
it there, or enters it. -/
theorem step_to_dispatch {s t : NetState} {i : NetInput} {k : ℕ} (h : s.step i = .ok t)
    (ht : t.control = .connecting (.dispatch k)) :
    (s.control = .connecting (.dispatch k) ∧
      ∃ event status, t.net = s.net.networkStatusCallback event status) ∨
    (s.control = .connecting (.connected k) ∧ i = .driver .proceed ∧
      t.net = { s.net with dispatchCalled := true }.record .dispatchForever) := by
  cases steps_of_step h with
  | initConnection id =>
    unfold Net.initConnection at ht
    cases hd : s.net.defaultInstance <;> simp [hd, enter] at ht
  | closes => simp at ht
  | nothingToClose => simp at ht
  | status event status => exact Or.inl ⟨ht, event, status, rfl⟩
  | @driver p r n next hp hconn =>
    cases next with
    | returned b => simp [enter] at ht
    | waits q =>
      simp only [enter, NetControl.connecting.injEq] at ht
      subst ht
      obtain ⟨rfl, rfl, rfl⟩ := Net.connStep_dispatch hconn
      exact Or.inr ⟨hp, rfl, rfl⟩
  | closed => simp at ht

/-- Whatever happens, the flag says what was last heard of the link. -/
theorem step_tellsLink {s t : NetState} {i : NetInput} (h : s.step i = .ok t) (hs : TellsLink s) :
    TellsLink t := by
  intro p hp
  cases steps_of_step h with
  | initConnection id =>
    cases hnext : s.net.initConnection id with
    | mk n next =>
      rw [hnext] at hp
      cases next with
      | returned b => simp [enter] at hp
      | waits q =>
        have htells : (s.net.initConnection id).1.TellsLink :=
          Net.initConnection_tellsLink (congrArg Prod.snd hnext)
        rw [hnext] at htells
        exact htells
  | closes => simp at hp
  | nothingToClose => simp at hp
  | status event status => exact (hs p hp).networkStatusCallback event status
  | @driver p r n next hcontrol hconn =>
    have htells : n.TellsLink := (hs p hcontrol).connStep hconn
    cases next with
    | returned b => simp [enter] at hp
    | waits q => exact htells
  | closed => simp at hp

/-- From the return of `connect()` the way into the dispatch is open. -/
theorem step_enterDispatch {s : NetState} {k : ℕ} (hk : s.control = .connecting (.connected k)) :
    s.step (.driver .proceed) =
      .ok (enter ({ s.net with dispatchCalled := true }.record .dispatchForever,
        .waits (.dispatch k))) := by
  simp only [step, hk, Net.connStep, ok_bind, pure_eq_ok]

end NetState

/-- **`init_connection` misses no terminal status exactly when none comes before
`dispatch_called` is set**, whatever calls are made from whatever state. -/
theorem nothingMissed_iff (n : Net) (is : List NetInput) :
    (Always NetState.step { net := n } is fun _ s => NothingMissed s) ↔
      EachStep NetState.step { net := n } is fun _ s i => NothingEarly s i := by
  refine always_iff (fun _ s => TellsLink s ∧ DispatchWaits s) ?_ ?_ ?_ ?_ ?_
  · exact ⟨fun p h => by simp at h, fun i h => by simp at h⟩
  · rintro pre s i t - ⟨htells, hs⟩ hC h
    refine ⟨NetState.step_tellsLink h htells, fun k hk => ?_⟩
    rcases NetState.step_to_dispatch h hk with ⟨hsk, event, status, hnet⟩ | ⟨hsk, hi, hnet⟩
    · rw [hnet]
      exact (hs k hsk).networkStatusCallback event status
    · -- the dispatch is entered with `dispatch_called` set and nothing missed
      obtain ⟨hnone, hdown⟩ := hC k hsk hi
      have hnone' := mt (Net.terminalSinceConnect_record (e := .dispatchForever) (by decide) rfl).mp
        hnone
      rw [hnet]
      exact Or.inl ⟨rfl, hnone', (htells _ hsk).trans hdown⟩
  · rintro pre s ⟨-, hs⟩ k hk
    rcases hs k hk with ⟨-, hnone, hdown⟩ | hbreak
    · exact ⟨Or.inl hnone, fun hup => absurd (hdown.symm.trans hup) (by decide)⟩
    · exact ⟨Or.inr hbreak, fun _ => hbreak⟩
  · -- at its entry no break can have been requested for a dispatch
    rintro pre s i t - ⟨htells, -⟩ h ht k hk hi
    subst hi
    rw [NetState.step_enterDispatch hk, Except.ok.injEq] at h
    have hnobreak := { s.net with dispatchCalled := true }.not_breakForDispatch_record
    obtain ⟨hmiss, hup⟩ := ht k (by rw [← h]; rfl)
    rw [← h] at hmiss hup
    have hnone := hmiss.resolve_right hnobreak
    refine ⟨?_, ?_⟩
    · exact mt (Net.terminalSinceConnect_record (e := .dispatchForever) (by decide) rfl).mpr hnone
    · by_contra hne
      have hlink : s.net.linkUp = true := by simpa using hne
      exact hnobreak (hup ((htells _ hk).trans hlink))
  · intro pre s i _ _ hstop k hk hi
    subst hi
    exact absurd (NetState.step_enterDispatch hk) (hstop _)

/-- A GLOBAL_UP that comes while `connect()` is executing leaves `init_connection`
in its dispatch. -/
theorem not_nothingMissed_up_in_connect :
    ¬ Always NetState.step { net := { defaultInstance := some ⟨0⟩ } }
        [.initConnection (-1), .driver (.setBlockingReturns .ok),
          .status .connectionStatusChange .globalUp, .driver (.connectReturns .ok),
          .driver .proceed]
        fun _ s => NothingMissed s := by
  intro h
  have hmiss := h _ _ List.prefix_rfl rfl
  exact absurd ((hmiss 1 rfl).2 rfl) (by decide)

end PelionClientLite
