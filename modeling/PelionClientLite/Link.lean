import PelionClientLite.Setup

/-!
# The link

`interface_connected` stands for the last thing that was heard of the link: that it
is up, by a status or by a `connect()` that has nothing more to do; or that it is
down, by a status or because the program itself has taken it down.

## Main definitions

* `Net.linkUp` — what was last heard of the link.
* `Net.Hears` — one thing at most has been heard of it.
* `Net.TellsLink` — the flag says so.
* `Net.Linked` — the flag, the interface and the callback agree with it.
* `Net.Connects` — and `connect()` is only called on an interface.

## Main results

* `Net.networkStatusCallback_hears`, `Net.connStep_hears` — the flag is set to what is heard.
* `Net.initConnection_tellsLink`, `Net.TellsLink.connStep` — `init_connection` sets the
  flag to what is heard of the link, and keeps it so.
* `Net.Linked.networkStatusCallback`, `Net.initConnection_connects`,
  `Net.connStep_connects`, `Net.closeStep_linked` — everything keeps it so.
* `Net.Linked.getNetworkInterface_isSome_iff` — **there is an interface to attach to
  exactly when the link is up.**
-/

namespace PelionClientLite

open Machine

/-! ### What is heard of the link -/

namespace NetEntry

/-- The link is up. -/
def isUp : NetEntry → Bool
  | .status .connectionStatusChange .globalUp => true
  | .connectReturned _ .isConnected => true
  | .connectReturned true .ok => true
  | _ => false

/-- The link is down, or taken down. -/
def isDown : NetEntry → Bool
  | .status .connectionStatusChange .disconnected => true
  | .initConnection => true
  | .closed => true
  | _ => false

/-- Something is heard of the link. -/
def isLink (e : NetEntry) : Bool := e.isUp || e.isDown

end NetEntry

namespace Net

variable {n n' : Net}

/-- The link was last heard of as up. -/
def linkUp (n : Net) : Bool := (n.log.find? NetEntry.isLink).any NetEntry.isUp

theorem linkUp_record {e : NetEntry} (h : e.isLink = false) : (n.record e).linkUp = n.linkUp := by
  rw [linkUp, record, List.find?_cons_of_neg (by simp [h]), linkUp]

theorem linkUp_record_of_isLink {e : NetEntry} (h : e.isLink = true) :
    (n.record e).linkUp = e.isUp := by
  rw [linkUp, record, List.find?_cons_of_pos h]
  rfl

/-! ### The flag, the interface and the callback -/

/-- The variables agree: an interface is the one the driver has; the flag is set only
with an interface; the callback is installed once at most, and at an interface; and
the flag says what was last heard of the link. -/
structure Linked (n : Net) : Prop where
  default : n.networkInterface.isSome = true → n.defaultInstance.isSome = true
  connected : n.interfaceConnected = true → n.networkInterface.isSome = true
  once : n.listeners ≤ 1
  listening : n.listeners ≠ 0 → n.networkInterface.isSome = true
  link : n.interfaceConnected = n.linkUp

/-- The link has not changed from `n` to `n'`. -/
structure SameLink (n n' : Net) : Prop where
  defaultInstance : n'.defaultInstance = n.defaultInstance
  networkInterface : n'.networkInterface = n.networkInterface
  interfaceConnected : n'.interfaceConnected = n.interfaceConnected
  listeners : n'.listeners = n.listeners
  linkUp : n'.linkUp = n.linkUp

namespace SameLink

theorem refl (n : Net) : n.SameLink n := ⟨rfl, rfl, rfl, rfl, rfl⟩

theorem trans {n'' : Net} (h : n.SameLink n') (h' : n'.SameLink n'') : n.SameLink n'' :=
  ⟨h'.defaultInstance.trans h.defaultInstance, h'.networkInterface.trans h.networkInterface,
    h'.interfaceConnected.trans h.interfaceConnected, h'.listeners.trans h.listeners,
    h'.linkUp.trans h.linkUp⟩

theorem record {e : NetEntry} (n : Net) (h : e.isLink = false) : n.SameLink (n.record e) :=
  ⟨rfl, rfl, rfl, rfl, linkUp_record h⟩

theorem sendNetworkEvent (e : NetworkEvent) (n : Net) : n.SameLink (n.sendNetworkEvent e) := by
  unfold Net.sendNetworkEvent
  split
  · exact refl n
  · exact record n rfl

theorem breakDispatch (n : Net) : n.SameLink n.breakDispatch := by
  unfold Net.breakDispatch
  split
  · exact ⟨rfl, rfl, rfl, rfl, linkUp_record rfl⟩
  · exact refl n

end SameLink

/-- From `n` to `n'` the link has not changed, or one thing has been heard of it. -/
def Hears (n n' : Net) : Prop :=
  n.SameLink n' ∨ ∃ e : NetEntry, e.isLink = true ∧
    SameLink { n.record e with interfaceConnected := e.isUp } n'

/-- The callback passes on what it is told of the link. -/
theorem networkStatusCallback_hears (event : NsapiEvent) (status : NsapiStatus) (n : Net) :
    n.Hears (n.networkStatusCallback event status) := by
  cases event with
  | other code => exact Or.inl (SameLink.record n rfl)
  | connectionStatusChange =>
    cases status with
    | globalUp =>
      exact Or.inr ⟨_, rfl, (SameLink.breakDispatch _).trans (SameLink.sendNetworkEvent _ _)⟩
    | disconnected =>
      exact Or.inr ⟨_, rfl, (SameLink.breakDispatch _).trans (SameLink.sendNetworkEvent _ _)⟩
    | other code => exact Or.inl (SameLink.record n rfl)
    | _ => exact Or.inl ((SameLink.record n rfl).trans (SameLink.sendNetworkEvent _ _))

/-- So does `init_connection` with the answers of `connect()`, which it calls on an
interface. -/
theorem connStep_hears {p : ConnPoint} {r : DriverInput} {next : ConnNext}
    (h : n.connStep p r = .ok (n', next)) :
    n.Hears n' ∧ (n.SameLink n' ∨ (∃ i, p = .connect i) ∨ n.networkInterface.isSome = true) := by
  have hkeeps : n.SameLink n' → n.Hears n' ∧
      (n.SameLink n' ∨ (∃ i, p = .connect i) ∨ n.networkInterface.isSome = true) :=
    fun hsame => ⟨Or.inl hsame, Or.inl hsame⟩
  have hattempt : ∀ {i : ℕ}, n.attempt i = .ok (n', next) → n.SameLink n' := by
    intro i h
    rcases attempt_cases h with ⟨-, rfl, -⟩ | ⟨rfl, -⟩
    · exact SameLink.record n rfl
    · exact SameLink.refl _
  have hblocking : ∀ {i : ℕ}, n.attemptBlocking i = .ok (n', next) → n.SameLink n' := by
    intro i h
    rcases attemptBlocking_cases h with ⟨-, rfl, -⟩ | ⟨rfl, -⟩
    · exact SameLink.record n rfl
    · exact SameLink.refl _
  cases connSteps_of_connStep h with
  | nonBlocking h => exact hkeeps (hattempt h)
  | blocking _ h => exact hkeeps (hblocking h)
  | retries h => exact hkeeps (hattempt h)
  | retriesBlocking h => exact hkeeps (hblocking h)
  -- `connect()` has nothing more to do: the link is up without a status
  | @alreadyConnected i =>
    exact ⟨Or.inr ⟨.connectReturned false .isConnected, rfl, SameLink.sendNetworkEvent _ _⟩,
      Or.inr (Or.inl ⟨i, rfl⟩)⟩
  | @blockingConnects i err hiface herr =>
    have hup : (NetEntry.connectReturned true err).isUp = true := by
      rcases herr with herr | herr <;> rw [herr] <;> rfl
    refine ⟨Or.inr ⟨.connectReturned true err, by rw [NetEntry.isLink, hup, Bool.true_or], ?_⟩,
      Or.inr (Or.inr hiface)⟩
    rw [hup]
    exact SameLink.refl _
  | connectFails => exact hkeeps (SameLink.record n rfl)
  | connectReturns => exact hkeeps (SameLink.record n rfl)
  | dispatches =>
    have hsame : (n.record .dispatchForever).linkUp = n.linkUp := linkUp_record rfl
    exact hkeeps ⟨rfl, rfl, rfl, rfl, hsame⟩
  | dispatchReturns => exact hkeeps ⟨rfl, rfl, rfl, rfl, rfl⟩
  | blockingFails => exact hkeeps (SameLink.record n rfl)
  | _ => exact hkeeps (SameLink.refl _)

/-! ### What the flag says -/

/-- The flag says what was last heard of the link. -/
def TellsLink (n : Net) : Prop := n.interfaceConnected = n.linkUp

namespace TellsLink

theorem congr (hn : n.TellsLink) (h : n.SameLink n') : n'.TellsLink := by
  rw [TellsLink, h.interfaceConnected, h.linkUp]
  exact hn

theorem hears (hn : n.TellsLink) (h : n.Hears n') : n'.TellsLink := by
  rcases h with h | ⟨e, he, h⟩
  · exact hn.congr h
  · have hheard : TellsLink { n.record e with interfaceConnected := e.isUp } :=
      (linkUp_record_of_isLink (n := n) he).symm
    exact hheard.congr h

/-- The callback keeps it so. -/
theorem networkStatusCallback (hn : n.TellsLink) (event : NsapiEvent) (status : NsapiStatus) :
    (n.networkStatusCallback event status).TellsLink :=
  hn.hears (networkStatusCallback_hears event status n)

/-- So does `init_connection`, from one wait to the next. -/
theorem connStep (hn : n.TellsLink) {p : ConnPoint} {r : DriverInput} {next : ConnNext}
    (h : n.connStep p r = .ok (n', next)) : n'.TellsLink :=
  hn.hears (connStep_hears h).1

end TellsLink

/-- Whatever the flag was before, `init_connection` takes the link for down. -/
theorem initConnection_tellsLink {id : ℤ} {p : ConnPoint}
    (h : (n.initConnection id).2 = .waits p) : (n.initConnection id).1.TellsLink := by
  unfold initConnection at h ⊢
  dsimp only at h ⊢
  split at h
  · simp at h
  · have hdown : (n.record .initConnection).linkUp = false := linkUp_record_of_isLink rfl
    exact hdown.symm

namespace Linked

theorem congr (hn : n.Linked) (h : n.SameLink n') : n'.Linked where
  default := by
    rw [h.networkInterface, h.defaultInstance]
    exact hn.default
  connected := by
    rw [h.interfaceConnected, h.networkInterface]
    exact hn.connected
  once := by
    rw [h.listeners]
    exact hn.once
  listening := by
    rw [h.listeners, h.networkInterface]
    exact hn.listening
  link := by
    rw [h.interfaceConnected, h.linkUp]
    exact hn.link

/-- With an interface, the flag is set to what is heard of the link. -/
theorem hear (hn : n.Linked) (hiface : n.networkInterface.isSome = true) {e : NetEntry}
    (he : e.isLink = true) : { n.record e with interfaceConnected := e.isUp }.Linked where
  default := hn.default
  connected := fun _ => hiface
  once := hn.once
  listening := fun _ => hiface
  link := (linkUp_record_of_isLink (n := n) he).symm

/-- So it is with whatever is heard of it. -/
theorem hears (hn : n.Linked) (hiface : n.networkInterface.isSome = true) (h : n.Hears n') :
    n'.Linked := by
  rcases h with h | ⟨e, he, h⟩
  · exact hn.congr h
  · exact (hn.hear hiface he).congr h

/-- The callback, which is called where it is installed only. -/
theorem networkStatusCallback (hn : n.Linked) (hlisten : n.listeners ≠ 0) (event : NsapiEvent)
    (status : NsapiStatus) : (n.networkStatusCallback event status).Linked :=
  hn.hears (hn.listening hlisten) (networkStatusCallback_hears event status n)

/-- **There is an interface to attach to exactly when the link is up.** -/
theorem getNetworkInterface_isSome_iff (hn : n.Linked) :
    n.getNetworkInterface.isSome = true ↔ n.linkUp = true := by
  rw [← hn.link]
  unfold getNetworkInterface
  constructor
  · intro h
    split at h
    · next hconn => exact hconn
    · simp at h
  · intro hconn
    rw [if_pos hconn]
    exact hn.connected hconn

end Linked

/-! ### Connecting and closing -/

/-- The callback leaves the interface. -/
theorem networkStatusCallback_networkInterface (event : NsapiEvent) (status : NsapiStatus)
    (n : Net) : (n.networkStatusCallback event status).networkInterface = n.networkInterface := by
  cases event with
  | other code => rfl
  | connectionStatusChange =>
    cases status with
    | globalUp =>
      exact ((SameLink.breakDispatch _).trans (SameLink.sendNetworkEvent _ _)).networkInterface
    | disconnected =>
      exact ((SameLink.breakDispatch _).trans (SameLink.sendNetworkEvent _ _)).networkInterface
    | other code => rfl
    | _ => exact (SameLink.sendNetworkEvent _ _).networkInterface

/-- What is kept from one point of `init_connection` to the next: the variables agree,
and `connect()` is called on an interface. -/
def Connects (n : Net) (next : ConnNext) : Prop :=
  n.Linked ∧ ∀ i, next = .waits (.connect i) → n.networkInterface.isSome = true

theorem Linked.connects (hn : n.Linked) {next : ConnNext}
    (h : ∀ i, next ≠ .waits (.connect i)) : n.Connects next :=
  ⟨hn, fun i hi => absurd hi (h i)⟩

/-- `init_connection` keeps the variables in agreement, up to its first wait. -/
theorem initConnection_connects (hn : n.Linked) (handlerId : ℤ) :
    (n.initConnection handlerId).1.Connects (n.initConnection handlerId).2 := by
  unfold initConnection
  dsimp only
  split
  · next hnone =>
    -- there never was an interface, so the flag has never been set
    have hiface : n.networkInterface.isSome = false := by
      rw [← Bool.not_eq_true]
      intro hsome
      have hdefault := hn.default hsome
      rw [hnone] at hdefault
      exact absurd hdefault (by decide)
    have hflag : n.interfaceConnected = false := by
      rw [← Bool.not_eq_true]
      intro hconn
      rw [hn.connected hconn] at hiface
      exact absurd hiface (by decide)
    have hlinked : { n with networkInterface := n.defaultInstance }.Linked := by
      refine ⟨id, ?_, hn.once, ?_, hn.link⟩
      · intro hconn
        exact absurd (hflag.symm.trans hconn) (by decide)
      · intro hlisten
        rw [hn.listening hlisten] at hiface
        exact absurd hiface (by decide)
    exact hlinked.connects (by simp)
  · next iface hsome =>
    have hiface : n.defaultInstance.isSome = true := by
      rw [hsome]
      rfl
    have honce : n.listeners - 1 + 1 ≤ 1 := by
      have := hn.once
      omega
    have hdown : (n.record .initConnection).linkUp = false := linkUp_record_of_isLink rfl
    refine ⟨⟨fun _ => hiface, ?_, honce, fun _ => hiface, hdown.symm⟩, by simp⟩
    intro hconn
    exact absurd hconn (by simp [record])

/-- It goes on to `connect()` only where there is an interface. -/
theorem connStep_connect {p : ConnPoint} {r : DriverInput} {i : ℕ}
    (h : n.connStep p r = .ok (n', .waits (.connect i))) : n'.networkInterface.isSome = true := by
  have hattempt : ∀ {j : ℕ}, n.attempt j = .ok (n', .waits (.connect i)) →
      n'.networkInterface.isSome = true := by
    intro j h
    rcases attempt_cases h with ⟨hiface, rfl, -⟩ | ⟨-, hnext⟩
    · exact hiface
    · simp at hnext
  have hblocking : ∀ {j : ℕ}, n.attemptBlocking j ≠ .ok (n', .waits (.connect i)) := by
    intro j h
    rcases attemptBlocking_cases h with ⟨-, -, hnext⟩ | ⟨-, hnext⟩ <;> simp at hnext
  cases connSteps_of_connStep h with
  | nonBlocking h => exact hattempt h
  | blocking _ h => exact absurd h hblocking
  | retries h => exact hattempt h
  | retriesBlocking h => exact absurd h hblocking

/-- It keeps them so from one wait to the next. -/
theorem connStep_connects {p : ConnPoint} {r : DriverInput} {next : ConnNext} (hn : n.Linked)
    (hconnect : ∀ i, p = .connect i → n.networkInterface.isSome = true)
    (h : n.connStep p r = .ok (n', next)) : n'.Connects next := by
  refine ⟨?_, fun i hi => connStep_connect (hi ▸ h)⟩
  obtain ⟨hhears, hcalled⟩ := connStep_hears h
  rcases hcalled with hsame | ⟨i, hi⟩ | hiface
  · exact hn.congr hsame
  · exact hn.hears (hconnect i hi) hhears
  · exact hn.hears hiface hhears

/-- `close_connection` takes the link down, or leaves it as it is. -/
theorem closeStep_linked (hn : n.Linked) (err : NsapiError) : (n.closeStep err).1.Linked := by
  unfold closeStep
  split
  · have hnone : n.listeners - 1 = 0 := by
      have := hn.once
      omega
    have hdown : (n.record .closed).linkUp = false := linkUp_record_of_isLink rfl
    refine ⟨?_, ?_, ?_, ?_, hdown.symm⟩
    · intro hsome
      exact absurd hsome (by simp [record])
    · intro hconn
      exact absurd hconn (by simp [record])
    · show n.listeners - 1 ≤ 1
      omega
    · intro hlisten
      exact absurd hnone hlisten
  · exact hn

end Net

end PelionClientLite
