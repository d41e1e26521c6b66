import PelionClientLite.Environment

/-!
# The network connection of `platform/mbed-os/setup.cpp`

`init_connection(int8_t)` brings the network interface up, `close_connection`
takes it down, and `network_status_callback` is called by the driver with the
changes of status in between, from any thread and at any time.

The first two wait for the driver and, on the non-blocking path, inside
`dispatch_forever()` of the shared event queue.  Each place where they wait is a
`ConnPoint`, and so are those between `connect()` and `dispatch_called`, and before
the test of `interface_connected`, where the callback may come in as well; `connStep`
runs the code from one such place to the next.  Between the test of
`interface_connected` and `return true` there is none: a status that comes there is
taken to come after the return.

## Main definitions

* `Net` — the variables of the file, with what the driver and the event queue
  keep for it.
* `networkStatusCallback`, `getNetworkInterface`.
* `initConnection`, `connStep` — `init_connection(int8_t)`.
* `closeConnection`, `closeStep` — `close_connection`.

## Main results

* `attempt_cases`, `attemptBlocking_cases` — what the head of a loop does.
* `connSteps_of_connStep` — every step of `init_connection` is one of `ConnSteps`.
* `networkStatusCallback_log` — what the callback adds to the log.
-/

namespace PelionClientLite

open Machine

/-! ### What the driver says -/

/-- The network interface object; the program only passes the pointer on. -/
structure NetworkInterface where
  /-- Its address. -/
  address : ℕ
  deriving DecidableEq, Repr

/-- `nsapi_error_t`, as far as the program tells its values apart. -/
inductive NsapiError where
  | ok
  | isConnected
  | other (code : ℤ)
  deriving DecidableEq, Repr

/-- `nsapi_event_t`: the first argument of the callback. -/
inductive NsapiEvent where
  | connectionStatusChange
  | other (code : ℕ)
  deriving DecidableEq, Repr

/-- `nsapi_connection_status_t`: the second argument of the callback. -/
inductive NsapiStatus where
  | localUp
  | globalUp
  | disconnected
  | connecting
  | errorUnsupported
  | other (code : ℕ)
  deriving DecidableEq, Repr

/-- The network status events the program passes on to a tasklet. -/
inductive NetworkEvent where
  | globalUp
  | localUp
  | disconnected
  | connecting
  | errorUnsupported
  deriving DecidableEq, Repr

/-- What happened to the network connection, newest first in `Net.log`. -/
inductive NetEntry where
  /-- `init_connection` has found an interface and goes on to connect it. -/
  | initConnection
  /-- `network_interface->connect()` is called. -/
  | connect
  /-- `connect()` returns, on the blocking path or not. -/
  | connectReturned (blocking : Bool) (err : NsapiError)
  /-- `dispatch_called` is set and `dispatch_forever()` called. -/
  | dispatchForever
  /-- `break_dispatch()` is called. -/
  | breakDispatch
  /-- `network_status_callback` is called. -/
  | status (event : NsapiEvent) (status : NsapiStatus)
  /-- A status event is sent to the tasklet. -/
  | networkEvent (e : NetworkEvent)
  /-- `close_connection` has disconnected the interface. -/
  | closed
  deriving DecidableEq, Repr

/-- The entry is one the callback makes. -/
def NetEntry.isCallback : NetEntry → Bool
  | .status _ _ => true
  | .breakDispatch => true
  | .networkEvent _ => true
  | _ => false

/-! ### The variables -/

/-- The variables of the file, and what the driver and the event queue keep. -/
structure Net where
  /-- What `NetworkInterface::get_default_instance()` returns: NULL, or one object. -/
  defaultInstance : Option NetworkInterface
  networkInterface : Option NetworkInterface := none
  appEventHandlerId : ℤ := -1
  interfaceConnected : Bool := false
  dispatchCalled : Bool := false
  /-- How often `network_status_callback` is installed at the interface. -/
  listeners : ℕ := 0
  /-- `break_dispatch()` has been called and no dispatch has returned for it yet. -/
  breakRequested : Bool := false
  log : List NetEntry := []

namespace Net

/-- An entry added to the log. -/
def record (e : NetEntry) (n : Net) : Net := { n with log := e :: n.log }

/-- `send_network_event`: without an event handler there is nothing to do. -/
def sendNetworkEvent (e : NetworkEvent) (n : Net) : Net :=
  if n.appEventHandlerId < 0 then n else n.record (.networkEvent e)

/-- The part of the callback that ends the dispatch of `init_connection`. -/
def breakDispatch (n : Net) : Net :=
  if n.dispatchCalled then
    { n with dispatchCalled := false, breakRequested := true }.record .breakDispatch
  else n

/-- `network_status_callback`. -/
def networkStatusCallback (event : NsapiEvent) (status : NsapiStatus) (n : Net) : Net :=
  let n := n.record (.status event status)
  match event, status with
  | .connectionStatusChange, .globalUp =>
      ({ n with interfaceConnected := true }.breakDispatch).sendNetworkEvent .globalUp
  | .connectionStatusChange, .localUp => n.sendNetworkEvent .localUp
  | .connectionStatusChange, .disconnected =>
      ({ n with interfaceConnected := false }.breakDispatch).sendNetworkEvent .disconnected
  | .connectionStatusChange, .connecting => n.sendNetworkEvent .connecting
  | .connectionStatusChange, .errorUnsupported => n.sendNetworkEvent .errorUnsupported
  | .connectionStatusChange, .other _ => n
  | .other _, _ => n

/-- `get_network_interface`, whose argument is not used. -/
def getNetworkInterface (n : Net) : Option NetworkInterface :=
  if n.interfaceConnected then n.networkInterface else none

/-- A method of `*network_interface` is called. -/
def deref (n : Net) : Except Stop Unit :=
  match n.networkInterface with
  | none => .error .nullDereference
  | some _ => .ok ()

end Net

/-! ### `init_connection(int8_t)` -/

/-- `PLATFORM_CONNECTION_RETRY_COUNT`. -/
def platformConnectionRetryCount : ℕ := 5

/-- Where `init_connection` waits; `i` counts the attempts from one. -/
inductive ConnPoint where
  /-- In `set_blocking(false)`. -/
  | setBlocking
  /-- In `connect()`. -/
  | connect (i : ℕ)
  /-- `connect()` has returned `NSAPI_ERROR_OK`, and `dispatch_called` is not set yet. -/
  | connected (i : ℕ)
  /-- In `dispatch_forever()`. -/
  | dispatch (i : ℕ)
  /-- Before the test of `interface_connected`. -/
  | check (i : ℕ)
  /-- In `disconnect()`. -/
  | disconnect (i : ℕ)
  /-- In `do_wait`, between two attempts. -/
  | wait (i : ℕ)
  /-- In `connect()` of a blocking interface. -/
  | connectBlocking (i : ℕ)
  /-- In `disconnect()` of a blocking interface. -/
  | disconnectBlocking (i : ℕ)
  /-- In `do_wait`, on the blocking path. -/
  | waitBlocking (i : ℕ)
  deriving DecidableEq, Repr

/-- What `init_connection` does when it has run on: it waits again, or returns. -/
inductive ConnNext where
  | waits (p : ConnPoint)
  | returned (connected : Bool)
  deriving DecidableEq, Repr

/-- What ends a wait. -/
inductive DriverInput where
  | setBlockingReturns (err : NsapiError)
  | connectReturns (err : NsapiError)
  | disconnectReturns (err : NsapiError)
  /-- `dispatch_forever()` returns, which it does only after `break_dispatch()`. -/
  | dispatchReturns
  /-- The code runs on: a wait is over, or no callback came in between. -/
  | proceed
  deriving DecidableEq, Repr

namespace Net

/-- The head of the loop on the non-blocking path. -/
def attempt (i : ℕ) (n : Net) : Except Stop (Net × ConnNext) :=
  if i ≤ platformConnectionRetryCount then do
    n.deref
    return (n.record .connect, .waits (.connect i))
  else return (n, .returned false)

/-- The head of the loop on the blocking path. -/
def attemptBlocking (i : ℕ) (n : Net) : Except Stop (Net × ConnNext) :=
  if i ≤ platformConnectionRetryCount then do
    n.deref
    return (n.record .connect, .waits (.connectBlocking i))
  else return (n, .returned false)

/-- `init_connection(id)`, up to the call of `set_blocking`. -/
def initConnection (id : ℤ) (n : Net) : Net × ConnNext :=
  let n := { n with networkInterface := n.defaultInstance }
  match n.networkInterface with
  | none => (n, .returned false)
  | some _ =>
      -- the callback is removed first, so that it is never installed twice
      let n := { n with listeners := n.listeners - 1 + 1 }
      let n := { n with interfaceConnected := false, dispatchCalled := false }
      ({ n with appEventHandlerId := id }.record .initConnection, .waits .setBlocking)

/-- `init_connection`, from one point to the next.  An input that does not end the
wait at this point is refused. -/
def connStep (n : Net) : ConnPoint → DriverInput → Except Stop (Net × ConnNext)
  | .setBlocking, .setBlockingReturns err =>
      if err = .ok then n.attempt 1 else n.attemptBlocking 1
  | .connect i, .connectReturns err =>
      let n := n.record (.connectReturned false err)
      match err with
      -- already connected: no callback is to be expected, one is simulated
      | .isConnected =>
          .ok ({ n with interfaceConnected := true }.sendNetworkEvent .globalUp, .waits (.check i))
      | .other _ => .ok (n, .returned false)
      | .ok => .ok (n, .waits (.connected i))
  | .connected i, .proceed =>
      .ok ({ n with dispatchCalled := true }.record .dispatchForever, .waits (.dispatch i))
  | .dispatch i, .dispatchReturns =>
      if n.breakRequested then .ok ({ n with breakRequested := false }, .waits (.check i))
      else .error .refused
  | .check i, .proceed => do
      n.deref
      return (n, if n.interfaceConnected then .returned true else .waits (.disconnect i))
  | .disconnect i, .disconnectReturns _ => .ok (n, .waits (.wait i))
  | .wait i, .proceed => n.attempt (i + 1)
  | .connectBlocking i, .connectReturns err => do
      n.deref
      let n := n.record (.connectReturned true err)
      match err with
      | .other _ => return (n, .waits (.disconnectBlocking i))
      | _ => return ({ n with interfaceConnected := true }, .returned true)
  | .disconnectBlocking i, .disconnectReturns _ => .ok (n, .waits (.waitBlocking i))
  | .waitBlocking i, .proceed => n.attemptBlocking (i + 1)
  | _, _ => .error .refused

/-! ### `close_connection` -/

/-- `close_connection`, up to the call of `disconnect()`: without an interface it
returns at once. -/
def closeConnection (n : Net) : Option Bool :=
  if n.networkInterface.isSome then none else some false

/-- `close_connection`, from the return of `disconnect()` on. -/
def closeStep (err : NsapiError) (n : Net) : Net × Bool :=
  if err = .ok then
    ({ n with listeners := n.listeners - 1, networkInterface := none,
              interfaceConnected := false }.record .closed, true)
  else (n, false)

/-! ### What a step of `init_connection` can be -/

theorem deref_eq_ok {n : Net} {u : Unit} (h : n.deref = .ok u) :
    n.networkInterface.isSome = true := by
  unfold deref at h
  split at h
  · simp at h
  · next hiface =>
    rw [hiface]
    rfl

/-- An attempt calls `connect()` on the interface, or the loop is left. -/
theorem attempt_cases {n n' : Net} {i : ℕ} {next : ConnNext} (h : n.attempt i = .ok (n', next)) :
    (n.networkInterface.isSome = true ∧ n' = n.record .connect ∧ next = .waits (.connect i)) ∨
      (n' = n ∧ next = .returned false) := by
  unfold attempt at h
  split at h
  · obtain ⟨u, hu, h⟩ := bind_eq_ok.mp h
    simp only [pure_eq_ok, Except.ok.injEq, Prod.mk.injEq] at h
    exact Or.inl ⟨deref_eq_ok hu, h.1.symm, h.2.symm⟩
  · simp only [pure_eq_ok, Except.ok.injEq, Prod.mk.injEq] at h
    exact Or.inr ⟨h.1.symm, h.2.symm⟩

theorem attemptBlocking_cases {n n' : Net} {i : ℕ} {next : ConnNext}
    (h : n.attemptBlocking i = .ok (n', next)) :
    (n.networkInterface.isSome = true ∧ n' = n.record .connect ∧
      next = .waits (.connectBlocking i)) ∨ (n' = n ∧ next = .returned false) := by
  unfold attemptBlocking at h
  split at h
  · obtain ⟨u, hu, h⟩ := bind_eq_ok.mp h
    simp only [pure_eq_ok, Except.ok.injEq, Prod.mk.injEq] at h
    exact Or.inl ⟨deref_eq_ok hu, h.1.symm, h.2.symm⟩
  · simp only [pure_eq_ok, Except.ok.injEq, Prod.mk.injEq] at h
    exact Or.inr ⟨h.1.symm, h.2.symm⟩

/-- What it takes for `init_connection` to go on from a point, and where it leads. -/
inductive ConnSteps (n : Net) : ConnPoint → DriverInput → Net × ConnNext → Prop where
  | nonBlocking {next : Net × ConnNext} (h : n.attempt 1 = .ok next) :
      ConnSteps n .setBlocking (.setBlockingReturns .ok) next
  | blocking {err : NsapiError} {next : Net × ConnNext} (herr : err ≠ .ok)
      (h : n.attemptBlocking 1 = .ok next) :
      ConnSteps n .setBlocking (.setBlockingReturns err) next
  | alreadyConnected {i : ℕ} :
      ConnSteps n (.connect i) (.connectReturns .isConnected)
        ({ n.record (.connectReturned false .isConnected) with
          interfaceConnected := true }.sendNetworkEvent .globalUp, .waits (.check i))
  | connectFails {i : ℕ} {code : ℤ} :
      ConnSteps n (.connect i) (.connectReturns (.other code))
        (n.record (.connectReturned false (.other code)), .returned false)
  | connectReturns {i : ℕ} :
      ConnSteps n (.connect i) (.connectReturns .ok)
        (n.record (.connectReturned false .ok), .waits (.connected i))
  | dispatches {i : ℕ} :
      ConnSteps n (.connected i) .proceed
        ({ n with dispatchCalled := true }.record .dispatchForever, .waits (.dispatch i))
  | dispatchReturns {i : ℕ} (hbreak : n.breakRequested = true) :
      ConnSteps n (.dispatch i) .dispatchReturns
        ({ n with breakRequested := false }, .waits (.check i))
  | isConnected {i : ℕ} (hconn : n.interfaceConnected = true) :
      ConnSteps n (.check i) .proceed (n, .returned true)
  | isNotConnected {i : ℕ} (hconn : n.interfaceConnected = false) :
      ConnSteps n (.check i) .proceed (n, .waits (.disconnect i))
  | disconnects {i : ℕ} {err : NsapiError} :
      ConnSteps n (.disconnect i) (.disconnectReturns err) (n, .waits (.wait i))
  | retries {i : ℕ} {next : Net × ConnNext} (h : n.attempt (i + 1) = .ok next) :
      ConnSteps n (.wait i) .proceed next
  | blockingFails {i : ℕ} {code : ℤ} :
      ConnSteps n (.connectBlocking i) (.connectReturns (.other code))
        (n.record (.connectReturned true (.other code)), .waits (.disconnectBlocking i))
  | blockingConnects {i : ℕ} {err : NsapiError} (hiface : n.networkInterface.isSome = true)
      (herr : err = .ok ∨ err = .isConnected) :
      ConnSteps n (.connectBlocking i) (.connectReturns err)
        ({ n.record (.connectReturned true err) with interfaceConnected := true }, .returned true)
  | disconnectsBlocking {i : ℕ} {err : NsapiError} :
      ConnSteps n (.disconnectBlocking i) (.disconnectReturns err) (n, .waits (.waitBlocking i))
  | retriesBlocking {i : ℕ} {next : Net × ConnNext} (h : n.attemptBlocking (i + 1) = .ok next) :
      ConnSteps n (.waitBlocking i) .proceed next

/-- Every step of `init_connection` is one of these. -/
theorem connSteps_of_connStep {n : Net} {p : ConnPoint} {r : DriverInput} {next : Net × ConnNext}
    (h : n.connStep p r = .ok next) : n.ConnSteps p r next := by
  unfold connStep at h
  split at h
  · next err =>
    by_cases herr : err = .ok
    · rw [if_pos herr] at h
      rw [herr]
      exact .nonBlocking h
    · rw [if_neg herr] at h
      exact .blocking herr h
  · next i err =>
    cases err with
    | isConnected =>
      rw [Except.ok.injEq] at h
      exact h ▸ .alreadyConnected
    | other code =>
      rw [Except.ok.injEq] at h
      exact h ▸ .connectFails
    | ok =>
      rw [Except.ok.injEq] at h
      exact h ▸ .connectReturns
  · rw [Except.ok.injEq] at h
    exact h ▸ .dispatches
  · split at h
    · next hbreak =>
      rw [Except.ok.injEq] at h
      exact h ▸ .dispatchReturns hbreak
    · simp at h
  · obtain ⟨u, -, h⟩ := bind_pure_eq_ok.mp h
    cases hconn : n.interfaceConnected with
    | true =>
      rw [hconn, if_pos rfl] at h
      exact h ▸ .isConnected hconn
    | false =>
      rw [hconn] at h
      exact h ▸ .isNotConnected hconn
  · rw [Except.ok.injEq] at h
    exact h ▸ .disconnects
  · exact .retries h
  · next i err =>
    obtain ⟨u, hu, h⟩ := bind_eq_ok.mp h
    have hiface := deref_eq_ok hu
    cases err with
    | other code =>
      simp only [pure_eq_ok, Except.ok.injEq] at h
      exact h ▸ .blockingFails
    | ok =>
      simp only [pure_eq_ok, Except.ok.injEq] at h
      exact h ▸ .blockingConnects hiface (Or.inl rfl)
    | isConnected =>
      simp only [pure_eq_ok, Except.ok.injEq] at h
      exact h ▸ .blockingConnects hiface (Or.inr rfl)
  · rw [Except.ok.injEq] at h
    exact h ▸ .disconnectsBlocking
  · exact .retriesBlocking h
  · simp at h

/-! ### What the callback adds to the log -/

theorem sendNetworkEvent_log (e : NetworkEvent) (n : Net) :
    ∃ es, (n.sendNetworkEvent e).log = es ++ n.log ∧ ∀ x ∈ es, x.isCallback = true := by
  unfold sendNetworkEvent
  split
  · exact ⟨[], rfl, by simp⟩
  · exact ⟨[_], rfl, by simp [NetEntry.isCallback]⟩

/-- A terminal status adds itself, the break it requests, and its network event. -/
theorem breakDispatch_log (e : NetworkEvent) (n : Net) :
    ∃ es, (n.breakDispatch.sendNetworkEvent e).log = es ++ n.log ∧
      ∀ x ∈ es, x.isCallback = true := by
  obtain ⟨es, hlog, hes⟩ := sendNetworkEvent_log e n.breakDispatch
  rw [hlog]
  unfold breakDispatch
  split
  · refine ⟨es ++ [.breakDispatch], by simp [record], ?_⟩
    simpa [or_imp, forall_and, NetEntry.isCallback] using hes
  · exact ⟨es, rfl, hes⟩

/-- The callback adds entries of its own. -/
theorem networkStatusCallback_log (event : NsapiEvent) (status : NsapiStatus) (n : Net) :
    ∃ es, (n.networkStatusCallback event status).log = es ++ n.log ∧
      ∀ x ∈ es, x.isCallback = true := by
  -- whatever is added, the status is added before it
  have hstatus : ∀ n' : Net, (∃ es, n'.log = es ++ (n.record (.status event status)).log ∧
      ∀ x ∈ es, x.isCallback = true) →
      ∃ es, n'.log = es ++ n.log ∧ ∀ x ∈ es, x.isCallback = true := by
    rintro n' ⟨es, hlog, hes⟩
    refine ⟨es ++ [.status event status], by simp [hlog, record], ?_⟩
    simpa [or_imp, forall_and, NetEntry.isCallback] using hes
  apply hstatus
  cases event with
  | other code => exact ⟨[], rfl, by simp⟩
  | connectionStatusChange =>
    cases status with
    | globalUp => exact breakDispatch_log _ { n.record _ with interfaceConnected := true }
    | disconnected => exact breakDispatch_log _ { n.record _ with interfaceConnected := false }
    | other code => exact ⟨[], rfl, by simp⟩
    | _ => exact sendNetworkEvent_log _ _

end Net

end PelionClientLite
