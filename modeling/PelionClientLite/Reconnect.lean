import Mathlib.Algebra.Order.Ring.Int
import PelionClientLite.Lib.History
import PelionClientLite.Handlers

/-!
# The reconnect loop

`init_connection()` of `pdmc_client_example.cpp` calls `init_connection(-1)` until
it is connected, waiting twice as long after each failure.  It has no counter of
its own: it ends by a reboot when the error count reaches nine, and the client
events handled while `init_connection(-1)` dispatches the shared queue move the
same count.

What is said of the threshold of nine is said of one call and of what it lets in.  What is
said of the threshold of five is said of completed calls, and of the client events between
them: nothing comes in during a call there.  Runs that have both are those of `Device`.

## Main definitions

* `Reconnect`, `Reconnect.step` — the loop, with the client events it lets in.
* `App.initConnection` — the loop run to its end, with nothing coming in.
* `App.clientStep` — completed calls of the loop and client events in turn.
* `NinthFailureReboots`, `NineCounted`.
* `RebootsAtFifthError`, `FailuresForgotten`.

## Main results

* `ninthFailureReboots_iff` — **the loop is bounded exactly when its ninth failed
  attempt is the ninth count since the last reset.**
* `rebootsAtFifthError_iff` — **the threshold of five errors is exact exactly when
  the failed attempts before them do not count.**
-/

namespace PelionClientLite

open Machine

/-! ### The loop -/

/-- `init_connection()`, inside a call of `init_connection(-1)`. -/
structure Reconnect where
  app : App
  /-- An `int` in the source, which would overflow where it is doubled for the nineteenth
  time; here it does not.  So far it comes only where the ninth failure has not rebooted the
  device. -/
  timeoutMs : ℤ := 5000
  /-- `init_connection(-1)` has returned true. -/
  connected : Bool := false

/-- What may happen to the loop. -/
inductive ReconnectInput where
  /-- A client event is handled while `init_connection(-1)` dispatches. -/
  | event (env : Env) (event : ClientEvent)
  /-- `init_connection(-1)` returns. -/
  | returns (connected : Bool)

namespace App

/-- `init_connection()`, up to its loop. -/
def enterInitConnection (a : App) : App :=
  { a with client := { a.client with pdmcClientErrorCount := 0 } }

/-- The body of the loop, entered when an attempt has failed: after a wait of
`timeoutMs` the failure is counted. -/
def retryInitConnection (timeoutMs : ℤ) (a : App) : Except Stop (ℤ × App) := do
  let timeoutMs := timeoutMs * 2
  let client ← a.client.rebootIfThresholdValue maxPdmcClientInitConnectionErrorCount
  return (timeoutMs, { a with client })

end App

namespace Reconnect

/-- The loop, as entered. -/
def enter (a : App) : Reconnect := { app := a.enterInitConnection }

/-- One step of the loop.  Once it has returned, nothing more can happen to it. -/
def step (s : Reconnect) : ReconnectInput → Except Stop Reconnect
  | .event env event =>
      if s.connected then .error .refused
      else do
        let app ← s.app.pdmcEventHandler env event
        return { s with app }
  | .returns connected =>
      if s.connected then .error .refused
      else if connected then .ok { s with connected := true }
      else do
        let (timeoutMs, app) ← s.app.retryInitConnection s.timeoutMs
        return { s with app, timeoutMs }

end Reconnect

namespace App

variable {a a' : App}

/-- A failed attempt reboots the device when it brings the count to nine. -/
theorem retryInitConnection_eq_reboot_iff (timeoutMs : ℤ) :
    a.retryInitConnection timeoutMs = .error .reboot ↔
      a.client.pdmcClientErrorCount + 1 = maxPdmcClientInitConnectionErrorCount := by
  rw [← Client.rebootIfThresholdValue_eq_reboot_iff, retryInitConnection]
  cases a.client.rebootIfThresholdValue maxPdmcClientInitConnectionErrorCount with
  | ok c => simp
  | error e => simp

theorem retryInitConnection_eq_ok {timeoutMs timeoutMs' : ℤ}
    (h : a.retryInitConnection timeoutMs = .ok (timeoutMs', a')) :
    a.client.pdmcClientErrorCount + 1 ≠ maxPdmcClientInitConnectionErrorCount ∧
      timeoutMs' = timeoutMs * 2 ∧
      a' = { a with client :=
        { a.client with pdmcClientErrorCount := a.client.pdmcClientErrorCount + 1 } } := by
  obtain ⟨c, hc, h⟩ := bind_eq_ok.mp h
  rw [pure_eq_ok, Except.ok.injEq, Prod.mk.injEq] at h
  obtain ⟨hne, hcount⟩ := Client.rebootIfThresholdValue_eq_ok hc
  rw [hcount] at h
  exact ⟨hne, h.1.symm, h.2.symm⟩

end App

/-! ### The loop is bounded -/

/-- `INT_MAX` of a 32-bit `int`. -/
def intMax : ℤ := 2147483647

namespace ReconnectInput

/-- The error count is set back. -/
def resets : ReconnectInput → Bool
  | .event _ e => e.resetsErrors
  | .returns _ => false

/-- The error count goes up. -/
def counts : ReconnectInput → Bool
  | .event _ e => e.countsError
  | .returns connected => !connected

/-- An attempt has failed. -/
def isFailure : ReconnectInput → Bool
  | .returns false => true
  | _ => false

/-- An attempt has succeeded, and the loop returns. -/
def isSuccess : ReconnectInput → Bool
  | .returns true => true
  | _ => false

theorem isFailure_eq_true_iff {i : ReconnectInput} : i.isFailure = true ↔ i = .returns false := by
  cases i with
  | event env e => simp [isFailure]
  | returns connected => cases connected <;> simp [isFailure]

end ReconnectInput

namespace Reconnect

/-- The attempts that have failed. -/
def failures (is : List ReconnectInput) : ℕ := is.countP (·.isFailure)

/-- The failures and the errors counted since the count was last set back. -/
def counted (is : List ReconnectInput) : ℕ :=
  (History.since (·.resets) is).countP (·.counts)

/-- The variables of the loop are what its history says. -/
structure Inv (is : List ReconnectInput) (s : Reconnect) : Prop where
  timeoutMs : s.timeoutMs = 5000 * 2 ^ failures is
  errorCount : s.app.client.pdmcClientErrorCount = counted is
  connected : s.connected = is.any (·.isSuccess)

theorem enter_inv (a : App) : Inv [] (enter a) := ⟨rfl, rfl, rfl⟩

theorem counted_concat (is : List ReconnectInput) (i : ReconnectInput) :
    counted (is ++ [i]) =
      if i.resets then 0 else if i.counts then counted is + 1 else counted is := by
  unfold counted
  exact History.countP_since_concat _ is i

theorem failures_concat (is : List ReconnectInput) (i : ReconnectInput) :
    failures (is ++ [i]) = failures is + if i.isFailure then 1 else 0 := by
  rw [failures, failures, List.countP_append, List.countP_singleton]

theorem step_event_spec {s t : Reconnect} {env : Env} {e : ClientEvent}
    (h : s.step (.event env e) = .ok t) :
    s.connected = false ∧ ∃ a, s.app.pdmcEventHandler env e = .ok a ∧ t = { s with app := a } := by
  simp only [step] at h
  split at h
  · simp at h
  · next hconn =>
    obtain ⟨a, ha, ht⟩ := bind_pure_eq_ok.mp h
    exact ⟨by simpa using hconn, a, ha, ht.symm⟩

theorem step_success_spec {s t : Reconnect} (h : s.step (.returns true) = .ok t) :
    s.connected = false ∧ t = { s with connected := true } := by
  simp only [step] at h
  split at h
  · simp at h
  · next hconn =>
    rw [if_pos trivial, Except.ok.injEq] at h
    exact ⟨by simpa using hconn, h.symm⟩

/-- A failed attempt that does not reboot the device is one more failure, and one more
count. -/
theorem step_failure_spec {s t : Reconnect} (h : s.step (.returns false) = .ok t) :
    s.connected = false ∧
      s.app.client.pdmcClientErrorCount + 1 ≠ maxPdmcClientInitConnectionErrorCount ∧
      t = { s with
        timeoutMs := s.timeoutMs * 2
        app := { s.app with client := { s.app.client with
          pdmcClientErrorCount := s.app.client.pdmcClientErrorCount + 1 } } } := by
  simp only [step] at h
  split at h
  · simp at h
  · next hconn =>
    rw [if_neg (by decide)] at h
    obtain ⟨⟨timeoutMs, a⟩, ha, ht⟩ := bind_eq_ok.mp h
    obtain ⟨hne, htimeout, heq⟩ := App.retryInitConnection_eq_ok ha
    simp only [pure_eq_ok, Except.ok.injEq] at ht
    rw [htimeout, heq] at ht
    exact ⟨by simpa using hconn, hne, ht.symm⟩

/-- Every step of the loop keeps its variables true to its history. -/
theorem step_inv {is : List ReconnectInput} {s t : Reconnect} {i : ReconnectInput}
    (h : s.step i = .ok t) (hs : Inv is s) : Inv (is ++ [i]) t := by
  have hfailures := failures_concat is i
  have hcounted := counted_concat is i
  have hsuccess : (is ++ [i]).any (·.isSuccess) = (s.connected || i.isSuccess) := by
    rw [List.any_append, ← hs.connected]
    simp
  cases i with
  | event env e =>
    obtain ⟨-, a, ha, ht⟩ := step_event_spec h
    subst ht
    refine ⟨?_, ?_, ?_⟩
    · rw [hfailures]
      exact hs.timeoutMs
    · rw [hcounted, ← hs.errorCount]
      exact App.pdmcEventHandler_errorCount ha
    · rw [hsuccess]
      exact (Bool.or_false _).symm
  | returns connected =>
    cases connected with
    | true =>
      obtain ⟨-, ht⟩ := step_success_spec h
      subst ht
      refine ⟨?_, ?_, ?_⟩
      · rw [hfailures]
        exact hs.timeoutMs
      · rw [hcounted]
        exact hs.errorCount
      · rw [hsuccess]
        exact (Bool.or_true _).symm
    | false =>
      obtain ⟨-, -, ht⟩ := step_failure_spec h
      subst ht
      refine ⟨?_, ?_, ?_⟩
      · rw [hfailures]
        show s.timeoutMs * 2 = 5000 * 2 ^ (failures is + 1)
        rw [hs.timeoutMs, pow_succ, mul_assoc]
      · rw [hcounted, ← hs.errorCount]
        rfl
      · rw [hsuccess]
        exact (Bool.or_false _).symm

/-- The variables of the loop are what its history says, after every run. -/
theorem run_inv {a : App} {is : List ReconnectInput} {s : Reconnect}
    (h : run step (enter a) is = .ok s) : Inv is s :=
  run_induction (enter_inv a) (fun _ _ _ _ _ hs hstep => step_inv hstep hs) h

/-- A failed attempt reboots the device exactly when it is the ninth count. -/
theorem step_failure_eq_reboot_iff {is : List ReconnectInput} {s : Reconnect} (hs : Inv is s)
    (hloop : is.any (·.isSuccess) = false) :
    s.step (.returns false) = .error .reboot ↔
      counted is + 1 = maxPdmcClientInitConnectionErrorCount := by
  rw [← hs.errorCount, ← App.retryInitConnection_eq_reboot_iff s.timeoutMs]
  have hconn : s.connected = false := hs.connected.trans hloop
  simp only [step, hconn]
  cases s.app.retryInitConnection s.timeoutMs <;> simp

end Reconnect

/-- What the loop promises of each failed attempt: it waits twice as long as after
the one before, starting with 5 s; the wait can be doubled in an `int`; and the ninth
one reboots the device. -/
def NinthFailureReboots (is : List ReconnectInput) (s : Reconnect) (i : ReconnectInput) : Prop :=
  i.isFailure = true → is.any (·.isSuccess) = false →
    s.timeoutMs = 5000 * 2 ^ Reconnect.failures is ∧ s.timeoutMs * 2 ≤ intMax ∧
      (Reconnect.failures is + 1 = maxPdmcClientInitConnectionErrorCount →
        s.step i = .error .reboot)

/-- When the ninth attempt fails, that is also the ninth count since the last event
that set the count back. -/
def NineCounted (is : List ReconnectInput) (i : ReconnectInput) : Prop :=
  i.isFailure = true → is.any (·.isSuccess) = false →
    Reconnect.failures is + 1 = maxPdmcClientInitConnectionErrorCount →
      Reconnect.counted is + 1 = maxPdmcClientInitConnectionErrorCount

/-- **The reconnect loop is bounded exactly when the ninth failed attempt is also the
ninth count** since an event that set the count back, whatever events come in. -/
theorem ninthFailureReboots_iff (a : App) (is : List ReconnectInput) :
    EachStep Reconnect.step (.enter a) is NinthFailureReboots ↔
      EachStep Reconnect.step (.enter a) is fun pre _ i => NineCounted pre i := by
  refine eachStep_iff (fun pre s => Reconnect.Inv pre s ∧ Reconnect.failures pre ≤ 8)
    ⟨Reconnect.enter_inv a, Nat.zero_le _⟩ ?_ ?_ ?_
  · -- the loop does not go on from a ninth failure
    intro pre s i t _ hinv hC h
    obtain ⟨hs, hle⟩ := hinv
    refine ⟨Reconnect.step_inv h hs, ?_⟩
    rw [Reconnect.failures_concat]
    cases hi : i.isFailure with
    | false => simpa using hle
    | true =>
      have hret : i = .returns false := ReconnectInput.isFailure_eq_true_iff.mp hi
      rw [hret] at h
      obtain ⟨hconn, hcount, -⟩ := Reconnect.step_failure_spec h
      have hloop : pre.any (·.isSuccess) = false := hs.connected.symm.trans hconn
      have hne : Reconnect.failures pre + 1 ≠ maxPdmcClientInitConnectionErrorCount := by
        intro hnine
        rw [hs.errorCount] at hcount
        exact hcount (hC hi hloop hnine)
      rw [maxPdmcClientInitConnectionErrorCount] at hne
      simp only [if_true]
      omega
  · intro pre s i _ hinv hC hi hloop
    obtain ⟨hs, hle⟩ := hinv
    refine ⟨hs.timeoutMs, ?_, fun hnine => ?_⟩
    · have hpow : (2 : ℤ) ^ Reconnect.failures pre ≤ 2 ^ 8 := pow_le_pow_right₀ (by decide) hle
      rw [hs.timeoutMs, intMax]
      omega
    · rw [ReconnectInput.isFailure_eq_true_iff.mp hi]
      exact (Reconnect.step_failure_eq_reboot_iff hs hloop).mpr (hC hi hloop hnine)
  · intro pre s i _ hinv hP hi hloop hnine
    have hret : i = .returns false := ReconnectInput.isFailure_eq_true_iff.mp hi
    have hreboot := (hP hi hloop).2.2 hnine
    rw [hret] at hreboot
    exact (Reconnect.step_failure_eq_reboot_iff hinv.1 hloop).mp hreboot

/-- A network error in the ninth attempt takes the count past nine. -/
theorem not_ninthFailureReboots_error_in_ninth :
    ¬ EachStep Reconnect.step (.enter { net := { defaultInstance := some ⟨0⟩ } })
        (.replicate 8 (.returns false) ++
          [.event {} ⟨.code .networkError, .error⟩, .returns false])
        NinthFailureReboots := by
  intro h
  have hrun : ∃ s, run Reconnect.step (.enter { net := { defaultInstance := some ⟨0⟩ } })
      (.replicate 8 (.returns false) ++ [.event {} ⟨.code .networkError, .error⟩]) = .ok s :=
    ⟨_, rfl⟩
  obtain ⟨s, hs⟩ := hrun
  have hreboot := (h _ (.returns false) s (by simp) hs rfl rfl).2.2 rfl
  rw [Reconnect.step_failure_eq_reboot_iff (Reconnect.run_inv hs) rfl] at hreboot
  exact absurd hreboot (by decide)

/-! ### The threshold of errors -/

/-- What a run of the client is made of, outside the calls of `init_connection()`. -/
inductive ClientInput where
  /-- A call of `init_connection()` completes after this many failed attempts. -/
  | initConnection (failures : ℕ)
  /-- A client event is handled. -/
  | event (env : Env) (event : ClientEvent)

namespace App

/-- `init_connection()` as a call that is completed, when this many attempts fail before one
succeeds and nothing comes in meanwhile. -/
def initConnection (failures : ℕ) (a : App) : Except Stop App :=
  (run Reconnect.step (.enter a) (.replicate failures (.returns false) ++ [.returns true])).map
    (·.app)

/-- One step of a run of completed calls, and of client events that come in between them. -/
def clientStep (a : App) : ClientInput → Except Stop App
  | .initConnection failures => a.initConnection failures
  | .event env event => a.pdmcEventHandler env event

end App

namespace Reconnect

theorem counted_replicate (k : ℕ) : counted (.replicate k (.returns false)) = k := by
  induction k with
  | zero => rfl
  | succ k ih =>
    rw [List.replicate_succ', counted_concat, ih]
    rfl

/-- Fewer than nine failures in a row leave the loop going. -/
theorem run_failures (a : App) {k : ℕ} (hk : k < maxPdmcClientInitConnectionErrorCount) :
    ∃ s, run step (enter a) (.replicate k (.returns false)) = .ok s ∧ s.connected = false := by
  induction k with
  | zero => exact ⟨enter a, rfl, rfl⟩
  | succ k ih =>
    obtain ⟨s, hs, hconn⟩ := ih (by omega)
    have hcount : s.app.client.pdmcClientErrorCount = k :=
      (run_inv hs).errorCount.trans (counted_replicate k)
    have hne : s.app.client.pdmcClientErrorCount + 1 ≠ maxPdmcClientInitConnectionErrorCount := by
      omega
    have hstep : ∃ t, s.step (.returns false) = .ok t ∧ t.connected = false := by
      simp only [step, hconn, App.retryInitConnection, Client.rebootIfThresholdValue_eq,
        if_neg hne]
      exact ⟨_, rfl, rfl⟩
    obtain ⟨t, ht, htconn⟩ := hstep
    refine ⟨t, ?_, htconn⟩
    rw [List.replicate_succ']
    exact run_concat_eq_ok.mpr ⟨s, hs, ht⟩

end Reconnect

namespace App

variable {a a' : App} {k : ℕ}

/-- A call of `init_connection()` with fewer than nine failures completes. -/
theorem initConnection_isOk (a : App) (hk : k < maxPdmcClientInitConnectionErrorCount) :
    ∃ a', a.initConnection k = .ok a' := by
  obtain ⟨s, hs, hconn⟩ := Reconnect.run_failures a hk
  have hlast : s.step (.returns true) = .ok { s with connected := true } := by
    simp [Reconnect.step, hconn]
  refine ⟨s.app, ?_⟩
  rw [initConnection, run_concat_eq_ok.mpr ⟨s, hs, hlast⟩]
  rfl

/-- It leaves its failures in the error count. -/
theorem initConnection_errorCount (h : a.initConnection k = .ok a') :
    a'.client.pdmcClientErrorCount = k := by
  unfold initConnection at h
  cases hrun : run Reconnect.step (.enter a)
      (.replicate k (.returns false) ++ [.returns true]) with
  | error e => simp [hrun, Except.map] at h
  | ok s =>
    rw [hrun] at h
    simp only [Except.map, Except.ok.injEq] at h
    rw [← h, (Reconnect.run_inv hrun).errorCount, Reconnect.counted_concat,
      Reconnect.counted_replicate]
    rfl

end App

namespace ClientInput

/-- The count is to start again. -/
def resets : ClientInput → Bool
  | .initConnection _ => true
  | .event _ e => e.resetsErrors

/-- An error that is counted. -/
def counts : ClientInput → Bool
  | .initConnection _ => false
  | .event _ e => e.countsError

/-- The errors counted since the last registration, registration update or completed
`init_connection()`. -/
def errorsSince (is : List ClientInput) : ℕ := (History.since (·.resets) is).countP (·.counts)

/-- The failed attempts of that `init_connection()`, if it came last. -/
def failuresBefore (is : List ClientInput) : ℕ :=
  match History.latest (·.resets) is with
  | some (.initConnection failures) => failures
  | _ => 0

theorem errorsSince_concat (is : List ClientInput) (i : ClientInput) :
    errorsSince (is ++ [i]) =
      if i.resets then 0 else if i.counts then errorsSince is + 1 else errorsSince is := by
  unfold errorsSince
  exact History.countP_since_concat _ is i

theorem failuresBefore_concat (is : List ClientInput) {i : ClientInput}
    (h : i.resets = false) : failuresBefore (is ++ [i]) = failuresBefore is := by
  rw [failuresBefore, History.latest_concat is h, failuresBefore]

end ClientInput

open ClientInput

/-- The one count is of failed attempts and errors together. -/
theorem App.run_clientStep_errorCount {n : Net} {is : List ClientInput} {a : App}
    (h : run App.clientStep { net := n } is = .ok a) :
    a.client.pdmcClientErrorCount = failuresBefore is + errorsSince is := by
  refine run_induction (P := fun is (a : App) =>
    a.client.pdmcClientErrorCount = failuresBefore is + errorsSince is) rfl ?_ h
  intro is u i t _ hu hstep
  cases i with
  | initConnection k =>
    rw [App.initConnection_errorCount hstep, errorsSince_concat, failuresBefore,
      History.latest_concat_of_kind is rfl]
    rfl
  | event env e =>
    rw [App.pdmcEventHandler_errorCount hstep, errorsSince_concat]
    cases hr : e.resetsErrors with
    | true =>
      rw [failuresBefore, History.latest_concat_of_kind is hr]
      simp [resets, hr]
    | false =>
      rw [failuresBefore_concat is (i := .event env e) hr, hu]
      cases hc : e.countsError <;> simp [resets, counts, hr, hc]
      omega

/-- An error event reboots the device if and only if it is the fifth one counted since
the last registration, registration update or completed `init_connection()`. -/
def RebootsAtFifthError (is : List ClientInput) (a : App) (i : ClientInput) : Prop :=
  ∀ env errorCode, i = .event env ⟨.code errorCode, .error⟩ →
    (a.clientStep i = .error .reboot ↔
      Client.isCountedError errorCode = true ∧ errorsSince is + 1 = maxPdmcClientErrorCount)

/-- When an error is counted, no attempt had failed before the errors; or neither it,
nor it with the failed attempts, is the fifth. -/
def FailuresForgotten (is : List ClientInput) (i : ClientInput) : Prop :=
  ∀ env errorCode, i = .event env ⟨.code errorCode, .error⟩ →
    Client.isCountedError errorCode = true →
      failuresBefore is = 0 ∨
        (errorsSince is + 1 ≠ maxPdmcClientErrorCount ∧
          failuresBefore is + errorsSince is + 1 ≠ maxPdmcClientErrorCount)

/-- **The threshold of five errors is exact exactly when failed attempts to connect do
not count towards it.** -/
theorem rebootsAtFifthError_iff (n : Net) (is : List ClientInput) :
    EachStep App.clientStep { net := n } is RebootsAtFifthError ↔
      EachStep App.clientStep { net := n } is fun pre _ i => FailuresForgotten pre i := by
  apply eachStep_congr
  intro pre a i ha
  refine forall_congr' fun env => forall_congr' fun errorCode => forall_congr' fun hi => ?_
  have hreboot : a.clientStep i = .error .reboot ↔
      Client.isCountedError errorCode = true ∧
        failuresBefore pre + errorsSince pre + 1 = maxPdmcClientErrorCount := by
    rw [hi, App.clientStep, App.pdmcEventHandler_error_eq_reboot_iff,
      App.run_clientStep_errorCount ha]
  rw [hreboot, and_congr_right_iff]
  refine imp_congr_right fun _ => ?_
  constructor <;> intro h <;> omega

/-- After four failed attempts, the first error reboots the device. -/
theorem not_rebootsAtFifthError_four_failures :
    ¬ EachStep App.clientStep { net := { defaultInstance := some ⟨0⟩ } }
        [.initConnection 4, .event {} ⟨.code .timeout, .error⟩] RebootsAtFifthError := by
  intro h
  have hrun : ∃ a, run App.clientStep { net := { defaultInstance := some ⟨0⟩ } }
      [.initConnection 4] = .ok a := ⟨_, rfl⟩
  obtain ⟨a, ha⟩ := hrun
  have hreboot := h [.initConnection 4] _ a List.prefix_rfl ha {} .timeout rfl
  rw [App.clientStep, App.pdmcEventHandler_error_eq_reboot_iff,
    App.run_clientStep_errorCount ha] at hreboot
  exact absurd (hreboot.mp ⟨rfl, rfl⟩).2 (by decide)

end PelionClientLite
