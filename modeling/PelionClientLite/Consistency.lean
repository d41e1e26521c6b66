import PelionClientLite.Connection
import PelionClientLite.Link

/-!
# The variables of the connection

Four variables are shared by `init_connection(int8_t)`, `close_connection` and
`network_status_callback`.  Two of them concern the event queue, which
`init_connection` dispatches and `main` too: `dispatch_called` must be seen by the
callback only while the dispatch of `init_connection` goes on, or it would break the
one of `main`.

## Main definitions

* `Net.SameDispatch` — nothing has changed that concerns the dispatch.
* `NetState.Sound` — what is known between the steps.
* `NetState.Consistent`, `NetState.ConsistentStep` — what is required of the states,
  and of the steps.

## Main results

* `NetState.Sound.step` — every step keeps it.
* `NetState.Sound.step_ne_nullDereference` — no call is made through a NULL interface.
* `networkInterface_consistent` — **the variables are consistent over every run.**
-/

namespace PelionClientLite

open Machine

/-! ### What concerns the dispatch -/

namespace Net

variable {n n' : Net}

/-- How often `break_dispatch()` has been called. -/
def breaks (n : Net) : ℕ := n.log.count .breakDispatch

/-- Neither is `dispatch_called` set, nor has a break been requested. -/
def Quiet (n : Net) : Prop := n.dispatchCalled = false ∧ n.breakRequested = false

/-- Nothing that concerns the dispatch has changed from `n` to `n'`. -/
structure SameDispatch (n n' : Net) : Prop where
  dispatchCalled : n'.dispatchCalled = n.dispatchCalled
  breakRequested : n'.breakRequested = n.breakRequested
  breaks : n'.breaks = n.breaks

theorem breaks_record {e : NetEntry} (n : Net) (h : e ≠ .breakDispatch) :
    (n.record e).breaks = n.breaks :=
  List.count_cons_of_ne h

namespace SameDispatch

theorem refl (n : Net) : n.SameDispatch n := ⟨rfl, rfl, rfl⟩

theorem trans {n'' : Net} (h : n.SameDispatch n') (h' : n'.SameDispatch n'') :
    n.SameDispatch n'' :=
  ⟨h'.dispatchCalled.trans h.dispatchCalled, h'.breakRequested.trans h.breakRequested,
    h'.breaks.trans h.breaks⟩

theorem record {e : NetEntry} (n : Net) (h : e ≠ .breakDispatch) :
    n.SameDispatch (n.record e) :=
  ⟨rfl, rfl, breaks_record n h⟩

theorem sendNetworkEvent (e : NetworkEvent) (n : Net) : n.SameDispatch (n.sendNetworkEvent e) := by
  unfold Net.sendNetworkEvent
  split
  · exact refl n
  · exact record n (by simp)

theorem quiet (h : n.SameDispatch n') (hn : n.Quiet) : n'.Quiet :=
  ⟨h.dispatchCalled.trans hn.1, h.breakRequested.trans hn.2⟩

end SameDispatch

/-- A dispatch is broken only when it has set `dispatch_called`, and only once. -/
theorem breakDispatch_spec (n : Net) :
    n.SameDispatch n.breakDispatch ∨
      n.dispatchCalled = true ∧ n.breakDispatch.dispatchCalled = false := by
  unfold breakDispatch
  split
  · next hcalled => exact Or.inr ⟨hcalled, rfl⟩
  · exact Or.inl (SameDispatch.refl n)

/-- The callback breaks a dispatch that has set `dispatch_called`, or changes nothing
that concerns the dispatch. -/
theorem networkStatusCallback_dispatch (event : NsapiEvent) (status : NsapiStatus) (n : Net) :
    n.SameDispatch (n.networkStatusCallback event status) ∨
      n.dispatchCalled = true ∧ (n.networkStatusCallback event status).dispatchCalled = false := by
  have hrecord : n.SameDispatch (n.record (.status event status)) :=
    SameDispatch.record n (by simp)
  -- a terminal status, which sets the flag either way
  have hterminal : ∀ (up : Bool) (ev : NetworkEvent),
      n.SameDispatch (({ n.record (.status event status) with
        interfaceConnected := up }.breakDispatch).sendNetworkEvent ev) ∨
      n.dispatchCalled = true ∧ (({ n.record (.status event status) with
        interfaceConnected := up }.breakDispatch).sendNetworkEvent ev).dispatchCalled = false := by
    intro up ev
    have hsend := SameDispatch.sendNetworkEvent ev
      { n.record (.status event status) with interfaceConnected := up }.breakDispatch
    have hflag : n.SameDispatch
        { n.record (.status event status) with interfaceConnected := up } :=
      hrecord.trans ⟨rfl, rfl, rfl⟩
    rcases breakDispatch_spec
      { n.record (.status event status) with interfaceConnected := up } with
      hsame | ⟨hcalled, hbroken⟩
    · exact Or.inl ((hflag.trans hsame).trans hsend)
    · exact Or.inr ⟨hcalled, hsend.dispatchCalled.trans hbroken⟩
  cases event with
  | other code => exact Or.inl hrecord
  | connectionStatusChange =>
    cases status with
    | globalUp => exact hterminal true .globalUp
    | disconnected => exact hterminal false .disconnected
    | other code => exact Or.inl hrecord
    | localUp => exact Or.inl (hrecord.trans (SameDispatch.sendNetworkEvent _ _))
    | connecting => exact Or.inl (hrecord.trans (SameDispatch.sendNetworkEvent _ _))
    | errorUnsupported => exact Or.inl (hrecord.trans (SameDispatch.sendNetworkEvent _ _))

theorem attempt_sameDispatch {i : ℕ} {next : ConnNext} (h : n.attempt i = .ok (n', next)) :
    n.SameDispatch n' := by
  rcases attempt_cases h with ⟨-, rfl, -⟩ | ⟨rfl, -⟩
  · exact SameDispatch.record n (by simp)
  · exact SameDispatch.refl _

theorem attemptBlocking_sameDispatch {i : ℕ} {next : ConnNext}
    (h : n.attemptBlocking i = .ok (n', next)) : n.SameDispatch n' := by
  rcases attemptBlocking_cases h with ⟨-, rfl, -⟩ | ⟨rfl, -⟩
  · exact SameDispatch.record n (by simp)
  · exact SameDispatch.refl _

/-- What concerns the dispatch changes where `init_connection` enters it, and where it
comes back from it. -/
theorem connStep_sameDispatch {p : ConnPoint} {r : DriverInput} {next : ConnNext}
    (h : n.connStep p r = .ok (n', next)) :
    ((∀ i, p ≠ .dispatch i) ∧ n.SameDispatch n') ∨
      (∃ i, p = .connected i ∧ next = .waits (.dispatch i) ∧
        n' = { n with dispatchCalled := true }.record .dispatchForever) ∨
      ∃ i, p = .dispatch i ∧ n.breakRequested = true ∧ n' = { n with breakRequested := false } := by
  cases connSteps_of_connStep h with
  | nonBlocking h => exact Or.inl ⟨by simp, attempt_sameDispatch h⟩
  | blocking _ h => exact Or.inl ⟨by simp, attemptBlocking_sameDispatch h⟩
  | retries h => exact Or.inl ⟨by simp, attempt_sameDispatch h⟩
  | retriesBlocking h => exact Or.inl ⟨by simp, attemptBlocking_sameDispatch h⟩
  | @alreadyConnected i =>
    have hrecord : n.SameDispatch (n.record (.connectReturned false .isConnected)) :=
      SameDispatch.record n (by simp)
    have hflag : n.SameDispatch { n.record (.connectReturned false .isConnected) with
        interfaceConnected := true } :=
      hrecord.trans ⟨rfl, rfl, rfl⟩
    exact Or.inl ⟨by simp, hflag.trans (SameDispatch.sendNetworkEvent _ _)⟩
  | connectFails => exact Or.inl ⟨by simp, SameDispatch.record n (by simp)⟩
  | connectReturns => exact Or.inl ⟨by simp, SameDispatch.record n (by simp)⟩
  | @dispatches i => exact Or.inr (Or.inl ⟨i, rfl, rfl, rfl⟩)
  | @dispatchReturns i hbreak => exact Or.inr (Or.inr ⟨i, rfl, hbreak, rfl⟩)
  | isConnected => exact Or.inl ⟨by simp, SameDispatch.refl n⟩
  | isNotConnected => exact Or.inl ⟨by simp, SameDispatch.refl n⟩
  | disconnects => exact Or.inl ⟨by simp, SameDispatch.refl n⟩
  | blockingFails => exact Or.inl ⟨by simp, SameDispatch.record n (by simp)⟩
  | @blockingConnects i err _ _ =>
    have hrecord : n.SameDispatch (n.record (.connectReturned true err)) :=
      SameDispatch.record n (by simp)
    exact Or.inl ⟨by simp, hrecord.trans ⟨rfl, rfl, rfl⟩⟩
  | disconnectsBlocking => exact Or.inl ⟨by simp, SameDispatch.refl n⟩

/-! ### The interface -/

theorem attempt_networkInterface {i : ℕ} {next : ConnNext} (h : n.attempt i = .ok (n', next)) :
    n'.networkInterface = n.networkInterface := by
  rcases attempt_cases h with ⟨-, rfl, -⟩ | ⟨rfl, -⟩ <;> rfl

theorem attemptBlocking_networkInterface {i : ℕ} {next : ConnNext}
    (h : n.attemptBlocking i = .ok (n', next)) : n'.networkInterface = n.networkInterface := by
  rcases attemptBlocking_cases h with ⟨-, rfl, -⟩ | ⟨rfl, -⟩ <;> rfl

/-- `init_connection` keeps the interface it has found. -/
theorem connStep_networkInterface {p : ConnPoint} {r : DriverInput} {next : ConnNext}
    (h : n.connStep p r = .ok (n', next)) : n'.networkInterface = n.networkInterface := by
  cases connSteps_of_connStep h with
  | nonBlocking h => exact attempt_networkInterface h
  | blocking _ h => exact attemptBlocking_networkInterface h
  | retries h => exact attempt_networkInterface h
  | retriesBlocking h => exact attemptBlocking_networkInterface h
  | alreadyConnected => exact (SameLink.sendNetworkEvent _ _).networkInterface
  | _ => rfl

/-- It returns `true` only with the flag set. -/
theorem connStep_returned_true {p : ConnPoint} {r : DriverInput}
    (h : n.connStep p r = .ok (n', .returned true)) : n'.interfaceConnected = true := by
  have hattempt : ∀ i, n.attempt i ≠ .ok (n', .returned true) := by
    intro i h
    rcases attempt_cases h with ⟨-, -, hnext⟩ | ⟨-, hnext⟩ <;> simp at hnext
  have hblocking : ∀ i, n.attemptBlocking i ≠ .ok (n', .returned true) := by
    intro i h
    rcases attemptBlocking_cases h with ⟨-, -, hnext⟩ | ⟨-, hnext⟩ <;> simp at hnext
  cases connSteps_of_connStep h with
  | nonBlocking h => exact absurd h (hattempt _)
  | blocking _ h => exact absurd h (hblocking _)
  | retries h => exact absurd h (hattempt _)
  | retriesBlocking h => exact absurd h (hblocking _)
  | isConnected hconn => exact hconn
  | blockingConnects => rfl

/-- With an interface, `init_connection` goes on from every point with every answer that
belongs there. -/
theorem connStep_error (hiface : n.networkInterface.isSome = true) {p : ConnPoint}
    {r : DriverInput} {e : Stop} (h : n.connStep p r = .error e) : e = .refused := by
  obtain ⟨iface, hiface⟩ := Option.isSome_iff_exists.mp hiface
  have hderef : n.deref = .ok () := by
    rw [deref, hiface]
  have hattempt : ∀ i, n.attempt i ≠ .error e := by
    intro i h
    unfold attempt at h
    split at h <;> simp [hderef] at h
  have hblocking : ∀ i, n.attemptBlocking i ≠ .error e := by
    intro i h
    unfold attemptBlocking at h
    split at h <;> simp [hderef] at h
  unfold connStep at h
  split at h
  · split at h
    · exact absurd h (hattempt _)
    · exact absurd h (hblocking _)
  · dsimp only at h
    split at h <;> simp at h
  · simp at h
  · split at h
    · simp at h
    · simpa using h.symm
  · simp [hderef] at h
  · simp at h
  · exact absurd h (hattempt _)
  · rw [hderef, ok_bind] at h
    dsimp only at h
    split at h <;> simp at h
  · simp at h
  · exact absurd h (hblocking _)
  · simpa using h.symm

end Net

/-! ### The steps of the connection -/

namespace NetState

variable {s t : NetState} {i : NetInput}

/-- The dispatch in progress is the one of `init_connection`. -/
def Dispatching (s : NetState) : Prop := ∃ i, s.control = .connecting (.dispatch i)

/-- What is known between the steps: the variables agree, `init_connection` keeps its
interface, and `dispatch_called` is only set, and a break only requested, inside its
dispatch, and not both. -/
structure Sound (s : NetState) : Prop where
  linked : s.net.Linked
  interface : ∀ p, s.control = .connecting p → s.net.networkInterface.isSome = true
  dispatch : s.net.Quiet ∨
    s.Dispatching ∧ (s.net.dispatchCalled = true → s.net.breakRequested = false)

namespace Sound

/-- Where `init_connection` does not dispatch, all is quiet. -/
theorem quiet (hs : s.Sound) (h : ¬ s.Dispatching) : s.net.Quiet :=
  hs.dispatch.resolve_right fun hd => h hd.1

theorem quiet_of_connecting (hs : s.Sound) {p : ConnPoint} (hp : s.control = .connecting p)
    (h : ∀ i, p ≠ .dispatch i) : s.net.Quiet := by
  refine hs.quiet ?_
  rintro ⟨i, hi⟩
  rw [hp, NetControl.connecting.injEq] at hi
  exact h i hi

theorem quiet_of_idle (hs : s.Sound) (hidle : s.control = .idle) : s.net.Quiet := by
  refine hs.quiet ?_
  rintro ⟨i, hi⟩
  simp [hidle] at hi

theorem initConnection (hs : s.Sound) (hidle : s.control = .idle) (id : ℤ) :
    (enter (s.net.initConnection id)).Sound := by
  have hlinked := (Net.initConnection_connects hs.linked id).1
  have hquiet := hs.quiet_of_idle hidle
  unfold Net.initConnection at hlinked ⊢
  dsimp only at hlinked ⊢
  cases hd : s.net.defaultInstance with
  | none =>
    rw [hd] at hlinked
    exact ⟨hlinked, by simp [enter], Or.inl hquiet⟩
  | some iface =>
    rw [hd] at hlinked
    exact ⟨hlinked, fun _ _ => rfl, Or.inl ⟨rfl, hquiet.2⟩⟩

theorem status (hs : s.Sound) (hlisten : s.net.listeners ≠ 0) (event : NsapiEvent)
    (status : NsapiStatus) :
    NetState.Sound { s with net := s.net.networkStatusCallback event status } where
  linked := hs.linked.networkStatusCallback hlisten event status
  interface := fun p hp => by
    rw [Net.networkStatusCallback_networkInterface]
    exact hs.interface p hp
  dispatch := by
    rcases Net.networkStatusCallback_dispatch event status s.net with hsame | ⟨hcalled, hbroken⟩
    · rcases hs.dispatch with hquiet | ⟨hdispatch, honce⟩
      · exact Or.inl (hsame.quiet hquiet)
      · refine Or.inr ⟨hdispatch, ?_⟩
        rw [hsame.dispatchCalled, hsame.breakRequested]
        exact honce
    · -- `dispatch_called` was set, so this is the dispatch of `init_connection`
      rcases hs.dispatch with hquiet | ⟨hdispatch, -⟩
      · exact absurd (hcalled.symm.trans hquiet.1) (by decide)
      · exact Or.inr ⟨hdispatch, fun h => absurd (hbroken.symm.trans h) (by decide)⟩

theorem driver (hs : s.Sound) {p : ConnPoint} {r : DriverInput} {n : Net} {next : ConnNext}
    (hp : s.control = .connecting p) (h : s.net.connStep p r = .ok (n, next)) :
    (enter (n, next)).Sound := by
  have hiface := hs.interface p hp
  have hlinked : n.Linked := (Net.connStep_connects hs.linked (fun _ _ => hiface) h).1
  have hkept : n.networkInterface.isSome = true := by
    rw [Net.connStep_networkInterface h]
    exact hiface
  have hdispatch : n.Quiet ∨ (∃ i, next = .waits (.dispatch i)) ∧
      (n.dispatchCalled = true → n.breakRequested = false) := by
    rcases Net.connStep_sameDispatch h with
      ⟨hne, hsame⟩ | ⟨i, rfl, rfl, rfl⟩ | ⟨i, rfl, hbreak, rfl⟩
    · exact Or.inl (hsame.quiet (hs.quiet_of_connecting hp hne))
    · have hquiet := hs.quiet_of_connecting hp (by simp)
      exact Or.inr ⟨⟨i, rfl⟩, fun _ => hquiet.2⟩
    · -- the dispatch comes back after a break, which has cleared `dispatch_called`
      rcases hs.dispatch with hquiet | ⟨-, honce⟩
      · exact absurd (hbreak.symm.trans hquiet.2) (by decide)
      · have hcleared : s.net.dispatchCalled = false := by
          rw [← Bool.not_eq_true]
          intro hcalled
          exact absurd (hbreak.symm.trans (honce hcalled)) (by decide)
        exact Or.inl ⟨hcleared, rfl⟩
  cases next with
  | waits q =>
    refine ⟨hlinked, fun _ _ => hkept, hdispatch.imp_right ?_⟩
    rintro ⟨⟨i, hi⟩, honce⟩
    exact ⟨⟨i, by simpa [enter] using hi⟩, honce⟩
  | returned b =>
    refine ⟨hlinked, by simp [enter], hdispatch.imp_right ?_⟩
    rintro ⟨⟨i, hi⟩, -⟩
    simp at hi

theorem closed (hs : s.Sound) (hclosing : s.control = .closing) (err : NsapiError) :
    NetState.Sound
      { net := (s.net.closeStep err).1, returned := some (s.net.closeStep err).2 } where
  linked := Net.closeStep_linked hs.linked err
  interface := by simp
  dispatch := by
    have hquiet : s.net.Quiet := by
      refine hs.quiet ?_
      rintro ⟨i, hi⟩
      simp [hclosing] at hi
    unfold Net.closeStep
    split <;> exact Or.inl hquiet

/-- **Every step keeps what is known between the steps.** -/
theorem step (hs : s.Sound) (h : s.step i = .ok t) : t.Sound := by
  cases steps_of_step h with
  | initConnection id hidle => exact hs.initConnection hidle id
  | closes hidle => exact ⟨hs.linked, by simp, Or.inl (hs.quiet_of_idle hidle)⟩
  | nothingToClose hidle => exact ⟨hs.linked, by simp, Or.inl (hs.quiet_of_idle hidle)⟩
  | status event status hlisten => exact hs.status hlisten event status
  | driver hp hconn => exact hs.driver hp hconn
  | closed err hclosing => exact hs.closed hclosing err

/-- No call is ever made through a NULL interface. -/
theorem step_ne_nullDereference (hs : s.Sound) (i : NetInput) :
    s.step i ≠ .error .nullDereference := by
  intro h
  cases i with
  | initConnection id =>
    simp only [NetState.step] at h
    split at h <;> simp at h
  | closeConnection =>
    simp only [NetState.step] at h
    split at h
    · split at h <;> simp at h
    · simp at h
  | status event status =>
    simp only [NetState.step] at h
    split at h <;> simp at h
  | driver answer =>
    cases hc : s.control with
    | idle => simp [NetState.step, hc] at h
    | connecting p =>
      simp only [NetState.step, hc] at h
      cases hstep : s.net.connStep p answer with
      | ok next => simp [hstep] at h
      | error e =>
        have he := Net.connStep_error (hs.interface p hc) hstep
        simp [hstep, he] at h
    | closing => cases answer <;> simp [NetState.step, hc] at h

end Sound

/-! ### Consistency -/

/-- What is required of a state: one listener at most; an interface where
`interface_connected` is set; `dispatch_called` only between its assignment and the
break of the dispatch that follows it; and no break requested of another dispatch. -/
structure Consistent (s : NetState) : Prop where
  once : s.net.listeners ≤ 1
  interface : s.net.interfaceConnected = true → s.net.networkInterface.isSome = true
  dispatch : s.net.dispatchCalled = true → s.Dispatching ∧ s.net.breakRequested = false
  broken : s.net.breakRequested = true → s.Dispatching

/-- `init_connection` returns `b` with the step. -/
def InitReturns (s : NetState) (i : NetInput) (t : NetState) (b : Bool) : Prop :=
  ((∃ id, i = .initConnection id) ∨ ∃ p, s.control = .connecting p) ∧
    t.control = .idle ∧ t.returned = some b

/-- What is required of a step: `break_dispatch()` is called in the dispatch of
`init_connection` only, once; and `init_connection` returns with `dispatch_called`
cleared, and with an interface if it returns `true`. -/
structure ConsistentStep (s : NetState) (i : NetInput) : Prop where
  breaks : ∀ t, s.step i = .ok t → t.net.breaks ≠ s.net.breaks →
    s.Dispatching ∧ s.net.breakRequested = false
  returns : ∀ t b, s.step i = .ok t → s.InitReturns i t b →
    t.net.dispatchCalled = false ∧ (b = true → t.net.getNetworkInterface.isSome = true)

theorem Sound.consistent (hs : s.Sound) : s.Consistent where
  once := hs.linked.once
  interface := hs.linked.connected
  dispatch := by
    intro hcalled
    rcases hs.dispatch with hquiet | ⟨hdispatch, honce⟩
    · exact absurd (hcalled.symm.trans hquiet.1) (by decide)
    · exact ⟨hdispatch, honce hcalled⟩
  broken := by
    intro hbreak
    rcases hs.dispatch with hquiet | ⟨hdispatch, -⟩
    · exact absurd (hbreak.symm.trans hquiet.2) (by decide)
    · exact hdispatch

/-- `break_dispatch()` is called by the callback only, and only where
`dispatch_called` is set. -/
theorem breaks_of_step (h : s.step i = .ok t) (hne : t.net.breaks ≠ s.net.breaks) :
    s.net.dispatchCalled = true := by
  cases steps_of_step h with
  | initConnection id hidle =>
    refine absurd ?_ hne
    unfold Net.initConnection
    dsimp only
    cases s.net.defaultInstance with
    | none => rfl
    | some iface => exact Net.breaks_record (e := .initConnection) _ (by simp)
  | closes => exact absurd rfl hne
  | nothingToClose => exact absurd rfl hne
  | status event status hlisten =>
    rcases Net.networkStatusCallback_dispatch event status s.net with hsame | ⟨hcalled, -⟩
    · exact absurd hsame.breaks hne
    · exact hcalled
  | @driver p r n next hp hconn =>
    refine absurd ?_ hne
    have hbreaks : n.breaks = s.net.breaks := by
      rcases Net.connStep_sameDispatch hconn with ⟨-, hsame⟩ | ⟨i, -, -, rfl⟩ | ⟨i, -, -, rfl⟩
      · exact hsame.breaks
      · exact Net.breaks_record (e := .dispatchForever) _ (by simp)
      · rfl
    cases next <;> exact hbreaks
  | closed err hclosing =>
    refine absurd ?_ hne
    unfold Net.closeStep
    split
    · exact Net.breaks_record (e := .closed) _ (by simp)
    · rfl

/-- What `init_connection` returns, and with which flag. -/
theorem interfaceConnected_of_initReturns (h : s.step i = .ok t)
    (hreturns : s.InitReturns i t true) : t.net.interfaceConnected = true := by
  obtain ⟨hcall, hidle, htrue⟩ := hreturns
  cases steps_of_step h with
  | initConnection id =>
    unfold Net.initConnection at hidle htrue
    dsimp only at hidle htrue
    cases hd : s.net.defaultInstance <;> simp [hd, enter] at hidle htrue
  | closes => simp at hidle
  | nothingToClose hi =>
    rcases hcall with ⟨id, hid⟩ | ⟨p, hp⟩
    · simp at hid
    · simp [hi] at hp
  | status event status =>
    rcases hcall with ⟨id, hid⟩ | ⟨p, hp⟩
    · simp at hid
    · simp [hp] at hidle
  | @driver p r n next hp hconn =>
    cases next with
    | waits q => simp [enter] at hidle
    | returned b =>
      obtain rfl : b = true := by simpa [enter] using htrue
      exact Net.connStep_returned_true hconn
  | closed err hclosing =>
    rcases hcall with ⟨id, hid⟩ | ⟨p, hp⟩
    · simp at hid
    · simp [hclosing] at hp

theorem Sound.consistentStep (hs : s.Sound) (i : NetInput) : s.ConsistentStep i where
  breaks := fun _ h hne => hs.consistent.dispatch (breaks_of_step h hne)
  returns := by
    intro t b h hreturns
    have ht := hs.step h
    refine ⟨(ht.quiet_of_idle hreturns.2.1).1, fun hb => ?_⟩
    subst hb
    have hconn := interfaceConnected_of_initReturns h hreturns
    rw [Net.getNetworkInterface, if_pos hconn]
    exact ht.linked.connected hconn

/-- What is known before the first call. -/
theorem sound_start (defaultInstance : Option NetworkInterface) :
    NetState.Sound { net := { defaultInstance } } where
  linked := ⟨by simp, by simp, by simp, by simp, rfl⟩
  interface := by simp
  dispatch := Or.inl ⟨rfl, rfl⟩

end NetState

/-- **The variables of the connection are consistent over every run**, for all calls
that do not overlap, all answers of the driver and all status events. -/
theorem networkInterface_consistent (defaultInstance : Option NetworkInterface)
    (is : List NetInput) :
    (Always NetState.step { net := { defaultInstance } } is fun _ s => s.Consistent) ∧
      EachStep NetState.step { net := { defaultInstance } } is fun _ s i => s.ConsistentStep i := by
  have hsound : ∀ {pre s}, run NetState.step { net := { defaultInstance } } pre = .ok s →
      s.Sound := by
    intro pre s h
    exact run_invariant (fun _ _ _ h hs => hs.step h) h (NetState.sound_start defaultInstance)
  constructor
  · intro pre s _ h
    exact (hsound h).consistent
  · intro pre i s _ h
    exact (hsound h).consistentStep i

end PelionClientLite
