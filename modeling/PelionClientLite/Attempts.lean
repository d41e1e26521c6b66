import PelionClientLite.Lib.History
import PelionClientLite.Consistency

/-!
# The attempts of `init_connection`

`init_connection(int8_t)` calls `connect()` up to five times, and what it waits for it is
given by the driver, but for the end of its dispatch, which takes a status.  So a call is
over after a bounded number of answers, and can always be brought to its end.

It gives up early in one case: on the non-blocking path a `connect()` that fails at once
is not tried again, whereas on the blocking path it is.

## Main definitions

* `ConnPoint.attempts`, `ConnPoint.waitsLeft` — how far a call has come.
* `Net.connects` — the attempts made in the last call.
* `Net.Ends` — the dispatch can be ended, or has been.
* `NetState.Trying` — what is known while a call goes on.

## Main results

* `Net.connStep_tries` — each wait but the last leaves fewer.
* `NetState.step_trying` — every step keeps what is known.
* `NetState.progress` — no call is stuck.
* `initConnection_ends` — **every call can be brought to its end**, takes 31 answers of the
  driver and five attempts at most, and returns `false` for one of three reasons.
-/

namespace PelionClientLite

open Machine

/-! ### How far a call has come -/

namespace ConnPoint

/-- The attempts that have been made, up to this wait. -/
def attempts : ConnPoint → ℕ
  | .setBlocking => 0
  | .connect i => i
  | .connected i => i
  | .dispatch i => i
  | .check i => i
  | .disconnect i => i
  | .wait i => i
  | .connectBlocking i => i
  | .disconnectBlocking i => i
  | .waitBlocking i => i

/-- How often `init_connection` waits from here on, at most: six times for each attempt that
is left on the non-blocking path, and three times on the other. -/
def waitsLeft : ConnPoint → ℕ
  | .setBlocking => 6 * platformConnectionRetryCount + 1
  | .connect i => 6 * (platformConnectionRetryCount - i) + 6
  | .connected i => 6 * (platformConnectionRetryCount - i) + 5
  | .dispatch i => 6 * (platformConnectionRetryCount - i) + 4
  | .check i => 6 * (platformConnectionRetryCount - i) + 3
  | .disconnect i => 6 * (platformConnectionRetryCount - i) + 2
  | .wait i => 6 * (platformConnectionRetryCount - i) + 1
  | .connectBlocking i => 3 * (platformConnectionRetryCount - i) + 3
  | .disconnectBlocking i => 3 * (platformConnectionRetryCount - i) + 2
  | .waitBlocking i => 3 * (platformConnectionRetryCount - i) + 1

end ConnPoint

/-- How often `init_connection` waits when it has run on. -/
def ConnNext.waitsLeft : ConnNext → ℕ
  | .waits p => p.waitsLeft
  | .returned _ => 0

namespace Net

variable {n n' : Net}

/-- The calls of `connect()` in the last call of `init_connection` that has found an
interface. -/
def connects (n : Net) : ℕ := (n.log.takeWhile (· != .initConnection)).count .connect

theorem connects_record {e : NetEntry} (n : Net) (hinit : e ≠ .initConnection)
    (hconnect : e ≠ .connect) : (n.record e).connects = n.connects := by
  rw [connects, record, List.takeWhile_cons_of_pos (by simpa using hinit),
    List.count_cons_of_ne hconnect, connects]

theorem connects_record_connect (n : Net) : (n.record .connect).connects = n.connects + 1 := by
  rw [connects, record, List.takeWhile_cons_of_pos (by decide), List.count_cons_self, connects]

/-- What the callback adds is no attempt. -/
theorem connects_of_isCallback {es : List NetEntry} (hlog : n'.log = es ++ n.log)
    (hes : ∀ e ∈ es, e.isCallback = true) : n'.connects = n.connects := by
  induction es generalizing n' with
  | nil => rw [connects, hlog, List.nil_append, connects]
  | cons e es ih =>
    rw [List.forall_mem_cons] at hes
    have hinit : e ≠ .initConnection := by
      rintro rfl
      exact absurd hes.1 (by decide)
    have hconnect : e ≠ .connect := by
      rintro rfl
      exact absurd hes.1 (by decide)
    have hrest : ({ n with log := es ++ n.log } : Net).connects = n.connects := ih rfl hes.2
    rw [connects, hlog, List.cons_append, ← hrest]
    exact connects_record { n with log := es ++ n.log } hinit hconnect

/-- The last `connect()` has failed at once, on the non-blocking path. -/
def ConnectFailed (n : Net) : Prop :=
  ∃ code, n.log.head? = some (.connectReturned false (.other code))

/-- What is known when `init_connection` has run on: it has made the attempts it counts, and
returns `true` with the flag set, and `false` after five attempts or one that failed. -/
def Tries (n : Net) : ConnNext → Prop
  | .waits p => n.connects = p.attempts ∧ p.attempts ≤ platformConnectionRetryCount
  | .returned b => n.connects ≤ platformConnectionRetryCount ∧
      (b = true → n.interfaceConnected = true) ∧
      (b = false → n.ConnectFailed ∨ n.connects = platformConnectionRetryCount)

/-- The head of a loop: the next attempt is made, or five have been. -/
theorem head_tries {p : ConnPoint} {i : ℕ} {next : ConnNext} (hn : n.connects = i)
    (hi : i ≤ platformConnectionRetryCount) (hp : p.attempts = i + 1)
    (h : (if i + 1 ≤ platformConnectionRetryCount then do
        n.deref
        return (n.record .connect, .waits p)
      else return (n, .returned false) : Except Stop (Net × ConnNext)) = .ok (n', next)) :
    n'.Tries next ∧ (i < platformConnectionRetryCount ∧ next = .waits p ∨ next.waitsLeft = 0) := by
  split at h
  · next hlt =>
    obtain ⟨-, -, h⟩ := bind_eq_ok.mp h
    simp only [pure_eq_ok, Except.ok.injEq, Prod.mk.injEq] at h
    obtain ⟨rfl, rfl⟩ := h
    refine ⟨⟨?_, by rw [hp]; exact hlt⟩, Or.inl ⟨hlt, rfl⟩⟩
    rw [connects_record_connect, hn, hp]
  · next hge =>
    simp only [pure_eq_ok, Except.ok.injEq, Prod.mk.injEq] at h
    obtain ⟨rfl, rfl⟩ := h
    refine ⟨⟨?_, by simp, fun _ => Or.inr ?_⟩, Or.inr rfl⟩
    · omega
    · omega

theorem attempt_tries {i : ℕ} {next : ConnNext} (hn : n.connects = i)
    (hi : i ≤ platformConnectionRetryCount) (h : n.attempt (i + 1) = .ok (n', next)) :
    n'.Tries next ∧ next.waitsLeft ≤ 6 * (platformConnectionRetryCount - i) := by
  obtain ⟨htries, ⟨hlt, rfl⟩ | hleft⟩ := head_tries (p := .connect (i + 1)) hn hi rfl h
  · refine ⟨htries, ?_⟩
    simp only [ConnNext.waitsLeft, ConnPoint.waitsLeft]
    omega
  · exact ⟨htries, hleft ▸ Nat.zero_le _⟩

theorem attemptBlocking_tries {i : ℕ} {next : ConnNext} (hn : n.connects = i)
    (hi : i ≤ platformConnectionRetryCount) (h : n.attemptBlocking (i + 1) = .ok (n', next)) :
    n'.Tries next ∧ next.waitsLeft ≤ 3 * (platformConnectionRetryCount - i) := by
  obtain ⟨htries, ⟨hlt, rfl⟩ | hleft⟩ := head_tries (p := .connectBlocking (i + 1)) hn hi rfl h
  · refine ⟨htries, ?_⟩
    simp only [ConnNext.waitsLeft, ConnPoint.waitsLeft]
    omega
  · exact ⟨htries, hleft ▸ Nat.zero_le _⟩

/-- **Each wait leaves fewer**, and the attempts are counted. -/
theorem connStep_tries {p : ConnPoint} {r : DriverInput} {next : ConnNext}
    (hn : n.Tries (.waits p)) (h : n.connStep p r = .ok (n', next)) :
    n'.Tries next ∧ next.waitsLeft < p.waitsLeft := by
  obtain ⟨hconnects, hle⟩ := hn
  cases connSteps_of_connStep h with
  | nonBlocking h =>
    obtain ⟨htries, hleft⟩ := attempt_tries hconnects hle h
    exact ⟨htries, Nat.lt_succ_of_le hleft⟩
  | blocking _ h =>
    obtain ⟨htries, hleft⟩ := attemptBlocking_tries hconnects hle h
    refine ⟨htries, lt_of_le_of_lt hleft ?_⟩
    decide
  | @alreadyConnected i =>
    obtain ⟨es, hlog, hes⟩ := sendNetworkEvent_log .globalUp
      { n.record (.connectReturned false .isConnected) with interfaceConnected := true }
    refine ⟨⟨?_, hle⟩, ?_⟩
    · rw [connects_of_isCallback hlog hes]
      exact (connects_record n (by simp) (by simp)).trans hconnects
    · simp only [ConnNext.waitsLeft, ConnPoint.waitsLeft]
      omega
  | @connectFails i code =>
    refine ⟨⟨?_, by simp, fun _ => Or.inl ⟨code, rfl⟩⟩, ?_⟩
    · rw [connects_record n (by simp) (by simp), hconnects]
      exact hle
    · simp only [ConnNext.waitsLeft, ConnPoint.waitsLeft]
      omega
  | @connectReturns i =>
    refine ⟨⟨(connects_record n (by simp) (by simp)).trans hconnects, hle⟩, ?_⟩
    simp only [ConnNext.waitsLeft, ConnPoint.waitsLeft]
    omega
  | @dispatches i =>
    refine ⟨⟨(connects_record n (by simp) (by simp)).trans hconnects, hle⟩, ?_⟩
    simp only [ConnNext.waitsLeft, ConnPoint.waitsLeft]
    omega
  | @dispatchReturns i =>
    refine ⟨⟨hconnects, hle⟩, ?_⟩
    simp only [ConnNext.waitsLeft, ConnPoint.waitsLeft]
    omega
  | @isConnected i hconn =>
    refine ⟨⟨hconnects ▸ hle, fun _ => hconn, by simp⟩, ?_⟩
    simp only [ConnNext.waitsLeft, ConnPoint.waitsLeft]
    omega
  | @isNotConnected i =>
    refine ⟨⟨hconnects, hle⟩, ?_⟩
    simp only [ConnNext.waitsLeft, ConnPoint.waitsLeft]
    omega
  | @disconnects i =>
    refine ⟨⟨hconnects, hle⟩, ?_⟩
    simp only [ConnNext.waitsLeft, ConnPoint.waitsLeft]
    omega
  | @retries i next h =>
    obtain ⟨htries, hleft⟩ := attempt_tries hconnects hle h
    exact ⟨htries, Nat.lt_succ_of_le hleft⟩
  | @blockingFails i code =>
    refine ⟨⟨(connects_record n (by simp) (by simp)).trans hconnects, hle⟩, ?_⟩
    simp only [ConnNext.waitsLeft, ConnPoint.waitsLeft]
    omega
  | @blockingConnects i err =>
    refine ⟨⟨?_, fun _ => rfl, by simp⟩, ?_⟩
    · exact ((connects_record n (by simp) (by simp)).trans hconnects).le.trans hle
    · simp only [ConnNext.waitsLeft, ConnPoint.waitsLeft]
      omega
  | @disconnectsBlocking i =>
    refine ⟨⟨hconnects, hle⟩, ?_⟩
    simp only [ConnNext.waitsLeft, ConnPoint.waitsLeft]
    omega
  | @retriesBlocking i next h =>
    obtain ⟨htries, hleft⟩ := attemptBlocking_tries hconnects hle h
    exact ⟨htries, Nat.lt_succ_of_le hleft⟩

/-- At every wait with an interface an answer is accepted, but in a dispatch that nothing has
broken yet. -/
theorem connStep_isOk (hiface : n.networkInterface.isSome = true) (p : ConnPoint)
    (hbreak : ∀ i, p = .dispatch i → n.breakRequested = true) :
    ∃ r next, n.connStep p r = .ok next := by
  obtain ⟨iface, hiface⟩ := Option.isSome_iff_exists.mp hiface
  have hderef : n.deref = .ok () := by
    rw [deref, hiface]
  have hattempt : ∀ i, ∃ next, n.attempt i = .ok next := by
    intro i
    unfold attempt
    split
    · exact ⟨_, by rw [hderef]; rfl⟩
    · exact ⟨_, rfl⟩
  have hblocking : ∀ i, ∃ next, n.attemptBlocking i = .ok next := by
    intro i
    unfold attemptBlocking
    split
    · exact ⟨_, by rw [hderef]; rfl⟩
    · exact ⟨_, rfl⟩
  cases p with
  | setBlocking => exact ⟨.setBlockingReturns .ok, hattempt 1⟩
  | connect i => exact ⟨.connectReturns .ok, _, rfl⟩
  | connected i => exact ⟨.proceed, _, rfl⟩
  | dispatch i =>
    refine ⟨.dispatchReturns, ({ n with breakRequested := false }, .waits (.check i)), ?_⟩
    rw [connStep, if_pos (hbreak i rfl)]
  | check i =>
    refine ⟨.proceed,
      (n, if n.interfaceConnected then .returned true else .waits (.disconnect i)), ?_⟩
    rw [connStep, hderef]
    rfl
  | disconnect i => exact ⟨.disconnectReturns .ok, _, rfl⟩
  | wait i => exact ⟨.proceed, hattempt (i + 1)⟩
  | connectBlocking i =>
    refine ⟨.connectReturns .ok, ({ n.record (.connectReturned true .ok) with
      interfaceConnected := true }, .returned true), ?_⟩
    rw [connStep, hderef]
    rfl
  | disconnectBlocking i => exact ⟨.disconnectReturns .ok, _, rfl⟩
  | waitBlocking i => exact ⟨.proceed, hblocking (i + 1)⟩

/-! ### The callback stays installed -/

theorem networkStatusCallback_listeners (event : NsapiEvent) (status : NsapiStatus) (n : Net) :
    (n.networkStatusCallback event status).listeners = n.listeners := by
  cases event with
  | other code => rfl
  | connectionStatusChange =>
    cases status with
    | globalUp =>
      exact ((SameLink.breakDispatch _).trans (SameLink.sendNetworkEvent _ _)).listeners
    | disconnected =>
      exact ((SameLink.breakDispatch _).trans (SameLink.sendNetworkEvent _ _)).listeners
    | other code => rfl
    | _ => exact (SameLink.sendNetworkEvent _ _).listeners

/-- `init_connection` removes the callback no more, once it has installed it. -/
theorem connStep_listeners {p : ConnPoint} {r : DriverInput} {next : ConnNext}
    (h : n.connStep p r = .ok (n', next)) : n'.listeners = n.listeners := by
  have hattempt : ∀ {i}, n.attempt i = .ok (n', next) → n'.listeners = n.listeners := by
    intro i h
    rcases attempt_cases h with ⟨-, rfl, -⟩ | ⟨rfl, -⟩ <;> rfl
  have hblocking : ∀ {i}, n.attemptBlocking i = .ok (n', next) → n'.listeners = n.listeners := by
    intro i h
    rcases attemptBlocking_cases h with ⟨-, rfl, -⟩ | ⟨rfl, -⟩ <;> rfl
  cases connSteps_of_connStep h with
  | nonBlocking h => exact hattempt h
  | blocking _ h => exact hblocking h
  | retries h => exact hattempt h
  | retriesBlocking h => exact hblocking h
  | alreadyConnected => exact (SameLink.sendNetworkEvent _ _).listeners
  | _ => rfl

/-! ### A dispatch can be ended -/

/-- A dispatch can be ended, or has been. -/
def Ends (n : Net) : Prop := n.dispatchCalled = true ∨ n.breakRequested = true

/-- A terminal status ends a dispatch that can be ended. -/
theorem Ends.terminal (h : n.Ends) (e : NetworkEvent) :
    (n.breakDispatch.sendNetworkEvent e).breakRequested = true := by
  rw [(SameDispatch.sendNetworkEvent e _).breakRequested, breakDispatch]
  split
  · rfl
  · next hcalled => exact h.resolve_left hcalled

theorem Ends.globalUp (h : n.Ends) :
    (n.networkStatusCallback .connectionStatusChange .globalUp).breakRequested = true :=
  Ends.terminal (n := { n.record (.status .connectionStatusChange .globalUp) with
    interfaceConnected := true }) h .globalUp

theorem Ends.sameDispatch (h : n.Ends) (hsame : n.SameDispatch n') : n'.Ends := by
  rw [Ends, hsame.dispatchCalled, hsame.breakRequested]
  exact h

/-- What comes in a dispatch leaves it so. -/
theorem Ends.networkStatusCallback (h : n.Ends) (event : NsapiEvent) (status : NsapiStatus) :
    (n.networkStatusCallback event status).Ends := by
  have hrecord : (n.record (.status event status)).Ends :=
    h.sameDispatch (SameDispatch.record n (by simp))
  -- a terminal status sets the flag either way, and ends the dispatch
  have hterminal : ∀ (up : Bool) (e : NetworkEvent),
      (({ n.record (.status event status) with
        interfaceConnected := up }.breakDispatch).sendNetworkEvent e).Ends := by
    intro up e
    exact Or.inr (Ends.terminal
      (n := { n.record (.status event status) with interfaceConnected := up }) hrecord e)
  cases event with
  | other code => exact hrecord
  | connectionStatusChange =>
    cases status with
    | globalUp => exact hterminal true .globalUp
    | disconnected => exact hterminal false .disconnected
    | other code => exact hrecord
    | localUp => exact hrecord.sameDispatch (SameDispatch.sendNetworkEvent _ _)
    | connecting => exact hrecord.sameDispatch (SameDispatch.sendNetworkEvent _ _)
    | errorUnsupported => exact hrecord.sameDispatch (SameDispatch.sendNetworkEvent _ _)

end Net

/-! ### What is known while a call goes on -/

namespace NetInput

/-- A call is made. -/
def isCall : NetInput → Bool
  | .initConnection _ => true
  | .closeConnection => true
  | _ => false

/-- The driver answers, or the code runs on. -/
def isAnswer : NetInput → Bool
  | .driver _ => true
  | _ => false

end NetInput

/-- The answers that have been given since the last call. -/
def answers (is : List NetInput) : ℕ :=
  (History.since NetInput.isCall is).countP NetInput.isAnswer

namespace NetState

variable {s t : NetState} {i : NetInput} {pre : List NetInput}

/-- How many answers the call in progress takes at most. -/
def waitsLeft (s : NetState) : ℕ :=
  match s.control with
  | .idle => 0
  | .connecting p => p.waitsLeft
  | .closing => 1

/-- What is known while a call goes on: the attempts and the answers are counted, the
callback is installed, and a dispatch can be ended or has been. -/
structure Trying (pre : List NetInput) (s : NetState) : Prop where
  connects : s.net.connects ≤ platformConnectionRetryCount
  few : answers pre + s.waitsLeft ≤ 6 * platformConnectionRetryCount + 1
  tries : ∀ p, s.control = .connecting p → s.net.Tries (.waits p)
  listens : ∀ p, s.control = .connecting p → s.net.listeners ≠ 0
  ends : s.Dispatching → s.net.Ends

theorem answers_of_isCall (pre : List NetInput) (h : i.isCall = true) :
    answers (pre ++ [i]) = 0 := by
  rw [answers, History.since_concat_of_reset pre h]
  rfl

theorem answers_status (pre : List NetInput) (event : NsapiEvent) (status : NsapiStatus) :
    answers (pre ++ [.status event status]) = answers pre := by
  rw [answers, History.since_concat pre rfl, List.countP_cons_of_neg (by simp [NetInput.isAnswer]),
    answers]

theorem answers_driver (pre : List NetInput) (r : DriverInput) :
    answers (pre ++ [.driver r]) = answers pre + 1 := by
  rw [answers, History.since_concat pre rfl, List.countP_cons_of_pos rfl, answers]

/-- Where no call is in progress, there is little to know. -/
theorem Trying.of_idle (hidle : s.control = .idle)
    (hconnects : s.net.connects ≤ platformConnectionRetryCount)
    (hfew : answers pre ≤ 6 * platformConnectionRetryCount + 1) : s.Trying pre where
  connects := hconnects
  few := by
    rw [waitsLeft, hidle]
    exact hfew
  tries := by simp [hidle]
  listens := by simp [hidle]
  ends := by
    rintro ⟨i, hi⟩
    simp [hidle] at hi

/-- A call of `init_connection` that finds an interface starts with nothing tried. -/
theorem Trying.initConnection (ht : s.Trying pre) (id : ℤ) :
    (enter (s.net.initConnection id)).Trying (pre ++ [.initConnection id]) := by
  have hnone : answers (pre ++ [.initConnection id]) = 0 := answers_of_isCall pre rfl
  unfold Net.initConnection
  cases hd : s.net.defaultInstance with
  | none =>
    refine Trying.of_idle rfl ht.connects ?_
    omega
  | some iface =>
    refine ⟨Nat.zero_le _, ?_, ?_, ?_, ?_⟩
    · rw [hnone, Nat.zero_add]
      exact le_rfl
    · intro p hp
      simp only [enter, NetControl.connecting.injEq] at hp
      exact hp ▸ ⟨rfl, Nat.zero_le _⟩
    · exact fun _ _ => Nat.succ_ne_zero _
    · rintro ⟨i, hi⟩
      simp [enter] at hi

/-- What is delivered while a call goes on is no answer, and no attempt. -/
theorem Trying.status (ht : s.Trying pre) (event : NsapiEvent) (status : NsapiStatus) :
    Trying (pre ++ [.status event status])
      { s with net := s.net.networkStatusCallback event status } := by
  obtain ⟨es, hlog, hes⟩ := Net.networkStatusCallback_log event status s.net
  have hconnects := Net.connects_of_isCallback hlog hes
  refine ⟨?_, ?_, ?_, ?_, ?_⟩
  · rw [hconnects]
    exact ht.connects
  · rw [answers_status]
    exact ht.few
  · intro p hp
    rw [Net.Tries, hconnects]
    exact ht.tries p hp
  · intro p hp
    rw [Net.networkStatusCallback_listeners]
    exact ht.listens p hp
  · intro hdispatch
    exact (ht.ends hdispatch).networkStatusCallback event status

/-- An answer that the driver gives to `init_connection` leaves fewer to come. -/
theorem Trying.driver (ht : s.Trying pre) {p : ConnPoint} {r : DriverInput} {n : Net}
    {next : ConnNext} (hp : s.control = .connecting p) (h : s.net.connStep p r = .ok (n, next)) :
    (enter (n, next)).Trying (pre ++ [.driver r]) := by
  obtain ⟨htries, hleft⟩ := Net.connStep_tries (ht.tries p hp) h
  have hfew := ht.few
  simp only [waitsLeft, hp] at hfew
  cases next with
  | returned b =>
    refine Trying.of_idle rfl htries.1 ?_
    rw [answers_driver]
    omega
  | waits q =>
    simp only [ConnNext.waitsLeft] at hleft
    refine ⟨htries.1.le.trans htries.2, ?_, ?_, ?_, ?_⟩
    · rw [answers_driver]
      show answers pre + 1 + q.waitsLeft ≤ _
      omega
    · intro q' hq'
      simp only [enter, NetControl.connecting.injEq] at hq'
      exact hq' ▸ htries
    · intro _ _
      show n.listeners ≠ 0
      rw [Net.connStep_listeners h]
      exact ht.listens p hp
    · rintro ⟨i, hi⟩
      simp only [enter, NetControl.connecting.injEq] at hi
      subst hi
      -- the dispatch is entered with `dispatch_called` set
      obtain ⟨-, -, rfl⟩ := Net.connStep_dispatch h
      exact Or.inl rfl

/-- **Every step keeps what is known.** -/
theorem step_trying (h : s.step i = .ok t) (ht : s.Trying pre) : t.Trying (pre ++ [i]) := by
  cases steps_of_step h with
  | initConnection id hidle => exact ht.initConnection id
  | closes hidle =>
    have hnone : answers (pre ++ [.closeConnection]) = 0 := answers_of_isCall pre rfl
    refine ⟨ht.connects, ?_, by simp, by simp, ?_⟩
    · rw [hnone]
      exact Nat.le_add_left 1 _
    · rintro ⟨i, hi⟩
      simp at hi
  | nothingToClose hidle b =>
    have hnone : answers (pre ++ [.closeConnection]) = 0 := answers_of_isCall pre rfl
    refine Trying.of_idle rfl ht.connects ?_
    omega
  | status event status hlisten => exact ht.status event status
  | driver hp hconn => exact ht.driver hp hconn
  | closed err hclosing =>
    have hfew := ht.few
    simp only [waitsLeft, hclosing] at hfew
    have hconnects : (s.net.closeStep err).1.connects = s.net.connects := by
      unfold Net.closeStep
      split
      · exact Net.connects_record (e := .closed) _ (by simp) (by simp)
      · rfl
    refine Trying.of_idle rfl ?_ ?_
    · show (s.net.closeStep err).1.connects ≤ _
      rw [hconnects]
      exact ht.connects
    · rw [answers_driver]
      exact hfew

theorem trying_start (defaultInstance : Option NetworkInterface) :
    NetState.Trying [] { net := { defaultInstance } } :=
  Trying.of_idle rfl (Nat.zero_le _) (Nat.zero_le _)

/-! ### The way to the end of a call -/

/-- A break is still needed before the driver can go on. -/
def needsBreak (s : NetState) : ℕ :=
  match s.control with
  | .connecting (.dispatch _) => if s.net.breakRequested then 0 else 1
  | _ => 0

theorem needsBreak_le (s : NetState) : s.needsBreak ≤ 1 := by
  unfold needsBreak
  split
  · split <;> decide
  · decide

/-- It is needed in a dispatch that nothing has broken. -/
theorem dispatching_of_needsBreak (h : s.needsBreak = 1) : s.Dispatching := by
  unfold needsBreak at h
  split at h
  · next i hi => exact ⟨i, hi⟩
  · simp at h

theorem needsBreak_of_breakRequested (h : s.net.breakRequested = true) : s.needsBreak = 0 := by
  unfold needsBreak
  split
  · rw [if_pos h]
  · rfl

/-- What can still happen in the call in progress: an answer for each wait, and a status that
breaks the dispatch. -/
def ahead (s : NetState) : ℕ := 2 * s.waitsLeft + s.needsBreak

/-- **No call is stuck**: the driver can answer, or a status can end the dispatch. -/
theorem progress (hs : s.Sound) (ht : s.Trying pre) :
    s.control = .idle ∨
      ∃ i t, i.isCall = false ∧ s.step i = .ok t ∧ t.ahead < s.ahead := by
  cases hc : s.control with
  | idle => exact Or.inl rfl
  | closing =>
    refine Or.inr ⟨.driver (.disconnectReturns .ok),
      { net := (s.net.closeStep .ok).1, returned := some (s.net.closeStep .ok).2 }, rfl, ?_, ?_⟩
    · simp only [step, hc]
    · simp [ahead, waitsLeft, needsBreak, hc]
  | connecting p =>
    right
    by_cases hbreak : s.needsBreak = 1
    · -- nothing has broken the dispatch, so `dispatch_called` is set
      have hends : s.net.Ends := ht.ends (dispatching_of_needsBreak hbreak)
      refine ⟨.status .connectionStatusChange .globalUp,
        { s with net := s.net.networkStatusCallback .connectionStatusChange .globalUp },
        rfl, ?_, ?_⟩
      · rw [step, if_neg (ht.listens p hc)]
      · have hnone : needsBreak { s with
            net := s.net.networkStatusCallback .connectionStatusChange .globalUp } = 0 :=
          needsBreak_of_breakRequested hends.globalUp
        rw [ahead, ahead, hnone, hbreak]
        exact Nat.lt_succ_self _
    · have hdispatch : ∀ i, p = .dispatch i → s.net.breakRequested = true := by
        rintro i rfl
        simpa [needsBreak, hc] using hbreak
      obtain ⟨r, ⟨n, next⟩, hok⟩ := Net.connStep_isOk (hs.interface p hc) p hdispatch
      obtain ⟨-, hleft⟩ := Net.connStep_tries (ht.tries p hc) hok
      refine ⟨.driver r, enter (n, next), rfl, ?_, ?_⟩
      · simp [step, hc, hok]
      · have hmost := (enter (n, next)).needsBreak_le
        have hnext : (enter (n, next)).waitsLeft = next.waitsLeft := by
          cases next <;> rfl
        have hhere : s.waitsLeft = p.waitsLeft := by
          rw [waitsLeft, hc]
        simp only [ahead, hnext, hhere]
        omega

/-- What is required of a state: few answers have been given to the call in progress, few
attempts made, and without another call the driver can bring it to its end. -/
structure Ending (pre : List NetInput) (s : NetState) : Prop where
  answers : answers pre ≤ 6 * platformConnectionRetryCount + 1
  connects : s.net.connects ≤ platformConnectionRetryCount
  ends : ∃ is t, (∀ i ∈ is, i.isCall = false) ∧ run step s is = .ok t ∧ t.control = .idle

/-- What is required of a step that returns `false` from `init_connection`: there was no
interface, or `connect()` has just failed at once, or it has been called five times. -/
def GivesUp (s : NetState) (i : NetInput) : Prop :=
  ∀ t, s.step i = .ok t → s.InitReturns i t false →
    t.net.defaultInstance = none ∨ t.net.ConnectFailed ∨
      t.net.connects = platformConnectionRetryCount

theorem Trying.ending (ht : s.Trying pre) (hs : s.Sound) : s.Ending pre where
  answers := (Nat.le_add_right _ _).trans ht.few
  connects := ht.connects
  ends := by
    refine exists_run_of_progress (I := fun s => s.Sound ∧ ∃ pre, s.Trying pre) (μ := ahead) ?_
      ⟨hs, pre, ht⟩
    rintro s ⟨hs, pre, ht⟩
    rcases progress hs ht with hidle | ⟨i, t, hi, hok, hlt⟩
    · exact Or.inl hidle
    · exact Or.inr ⟨i, t, hi, hok, ⟨hs.step hok, _, step_trying hok ht⟩, hlt⟩

theorem Trying.givesUp (ht : s.Trying pre) (i : NetInput) : s.GivesUp i := by
  intro t h hreturns
  obtain ⟨hcall, hidle, hfalse⟩ := hreturns
  cases steps_of_step h with
  | initConnection id =>
    unfold Net.initConnection at hidle ⊢
    dsimp only at hidle ⊢
    cases hd : s.net.defaultInstance with
    | none => exact Or.inl rfl
    | some iface => simp [hd, enter] at hidle
  | closes => simp at hidle
  | nothingToClose hi =>
    rcases hcall with ⟨id, hid⟩ | ⟨p, hp⟩
    · simp at hid
    · simp [hi] at hp
  | status event status =>
    rcases hcall with ⟨id, hid⟩ | ⟨p, hp⟩
    · simp at hid
    · simp [hp] at hidle
  | @driver p r n next hp hconn =>
    obtain ⟨htries, -⟩ := Net.connStep_tries (ht.tries p hp) hconn
    cases next with
    | waits q => simp [enter] at hidle
    | returned b =>
      obtain rfl : b = false := by simpa [enter] using hfalse
      exact Or.inr (htries.2.2 rfl)
  | closed err hclosing =>
    rcases hcall with ⟨id, hid⟩ | ⟨p, hp⟩
    · simp at hid
    · simp [hclosing] at hp

end NetState

/-- **Every call of `init_connection` and `close_connection` can always be brought to its
end**, by answers of the driver and status events: it takes 31 answers and five attempts at
most, and it gives up for one of three reasons.  Nothing makes it end: in a dispatch it
waits as long as no status comes. -/
theorem initConnection_ends (defaultInstance : Option NetworkInterface) (is : List NetInput) :
    (Always NetState.step { net := { defaultInstance } } is fun pre s => s.Ending pre) ∧
      EachStep NetState.step { net := { defaultInstance } } is fun _ s i => s.GivesUp i := by
  have hknown : ∀ {pre s}, run NetState.step { net := { defaultInstance } } pre = .ok s →
      s.Sound ∧ s.Trying pre := by
    intro pre s h
    constructor
    · exact run_invariant (fun _ _ _ h hs => hs.step h) h (NetState.sound_start defaultInstance)
    · exact run_induction (P := fun pre s => NetState.Trying pre s)
        (NetState.trying_start defaultInstance)
        (fun _ _ _ _ _ ht h => NetState.step_trying h ht) h
  constructor
  · intro pre s _ h
    obtain ⟨hs, ht⟩ := hknown h
    exact ht.ending hs
  · intro pre i s _ h
    exact (hknown h).2.givesUp i

end PelionClientLite
