import PelionClientLite.Buffer
import PelionClientLite.Nesting

/-!
# What the device does not survive

Most of what stops the device is meant to: it reboots, or an assertion fails.  What is
not meant is that a wild pointer is read through, or that `main` returns.  No break ends
the dispatch of `main`, and no pointer is kept to a block that has been freed; but wild
pointers are read through in three places.

NULL is read through by a pattern timer that outlives its pattern, if there was no memory
for the next one; and by `init_connection` if its own dispatch has put the client to sleep
and so closed the interface under it.  A pointer that was never set is read through by a
POST whose pattern the registry does not give: `blink_callback` does not look at the status.

## Main definitions

* `Stop.isFault` — the ways to stop that are not meant.
* `Blinky.Served` — events are pending only for a tasklet that is there.
* `Net.opened` — `init_connection` has found an interface, not closed since.
* `ReadsNull` — the steps that read through NULL.
* `ReadsUnset` — the steps that read through a pointer that was never set.

## Main results

* `App.handle_avoids` — no handler faults but for a pattern timer and a POST.
* `Net.connStep_error_iff` — where `init_connection` reads through NULL.
* `device_faults` — **`main` never returns, and wild pointers are read through in these
  three places exactly.**
-/

namespace PelionClientLite

open CLib Machine

/-- A wild pointer is read through, or `main` returns. -/
def Stop.isFault : Stop → Bool
  | .nullDereference => true
  | .danglingPointer => true
  | .mainReturned => true
  | _ => false

/-! ### The player -/

namespace Blinky

variable {b b' : Blinky} {env : Env}

theorem requestTimedEvent_avoids (env : Env) (type : BlinkyEvent) (delay : ℤ) (b : Blinky) :
    Avoids (·.isFault = true) (b.requestTimedEvent env type delay) := by
  unfold requestTimedEvent
  split
  · exact avoids_error (by decide)
  · split <;> exact avoids_ok _

theorem requestNextLoopEvent_avoids (env : Env) (b : Blinky) :
    Avoids (·.isFault = true) (b.requestNextLoopEvent env) :=
  (requestTimedEvent_avoids env .loopTimer _ b).bind fun _ _ => avoids_ok _

theorem requestAutomaticIncrementEvent_avoids (env : Env) (b : Blinky) :
    Avoids (·.isFault = true) (b.requestAutomaticIncrementEvent env) :=
  (requestTimedEvent_avoids env .automaticIncrementTimer _ b).bind fun _ _ => avoids_ok _

theorem createTasklet_avoids (env : Env) (b : Blinky) :
    Avoids (·.isFault = true) (b.createTasklet env) := by
  unfold createTasklet
  split
  · split
    · exact avoids_error (by decide)
    · exact avoids_ok _
  · exact avoids_ok _

/-- A start steps on its own pattern. -/
theorem start_avoids (env : Env) (pattern : List UInt8) (r : Bool) (b : Blinky) :
    Avoids (·.isFault = true) (b.start env pattern r) := by
  cases hcreate : b.createTasklet env with
  | error e =>
    rw [start, hcreate]
    exact avoids_error (createTasklet_avoids env b e hcreate)
  | ok b₁ =>
    cases hmalloc : env.malloc with
    | false =>
      simp only [start, hcreate, ok_bind, hmalloc, Bool.false_eq_true, if_false]
      exact avoids_ok _
    | true =>
      obtain ⟨b₂, heq, hplays⟩ := start_eq hcreate hmalloc pattern r
      rw [heq]
      -- the first step may fail the assertion on its delay, and no more
      rcases runStep_spec hplays env with ⟨-, -, herr⟩ | ⟨-, b₃, hok, -⟩
      · rw [herr]
        exact avoids_error (by decide)
      · rw [hok]
        exact avoids_ok _

/-- A pattern timer steps on its pattern, where there is one. -/
theorem handlePatternEvent_avoids {v : Playback} (h : Plays b v) (env : Env) :
    Avoids (·.isFault = true) (b.handlePatternEvent env) := by
  rcases handlePatternEvent_spec h env with ⟨-, herr⟩ | ⟨-, c, hok, -⟩
  · rw [herr]
    exact avoids_error (by decide)
  · rw [hok]
    exact avoids_ok _

/-- Without a pattern it reads through NULL. -/
theorem handlePatternEvent_of_null (h : b.currPattern = none) (env : Env) :
    b.handlePatternEvent env = .error .nullDereference := by
  simp only [handlePatternEvent, runStep, getNextInt, h, error_bind]

/-- A player seen without its periodic timers plays what it plays with them. -/
theorem plays_of_patternOnly {v : Playback} (h : Plays b.patternOnly v) (hb : ¬ b.tasklet < 0) :
    Plays b { v with log := b.log } := by
  refine ⟨h.buffer, h.state, h.restart, ?_, rfl, hb⟩
  rw [← b.patternOnly_pendingCount]
  exact h.due

/-! ### The tasklet -/

/-- Events are pending only for a tasklet that is there, and that finds the player. -/
structure Served (b : Blinky) : Prop where
  tasklet : b.pending ≠ [] → ¬ b.tasklet < 0
  static : ¬ b.tasklet < 0 → b.staticBlinky = true

namespace Served

/-- Events that are asked for with a tasklet are pending for it. -/
theorem congr (hb : b.Served) (htasklet : b'.tasklet = b.tasklet)
    (hstatic : b'.staticBlinky = b.staticBlinky)
    (hpending : b'.pending = b.pending ∨ ¬ b.tasklet < 0) : b'.Served := by
  refine ⟨?_, ?_⟩
  · intro hne
    rw [htasklet]
    rcases hpending with hsame | hthere
    · exact hb.tasklet (hsame ▸ hne)
    · exact hthere
  · rw [htasklet, hstatic]
    exact hb.static

/-- An event is delivered. -/
theorem erase (hb : b.Served) (type : BlinkyEvent) :
    Blinky.Served { b with pending := b.pending.erase type } := by
  refine ⟨fun hne => hb.tasklet ?_, hb.static⟩
  intro hnil
  exact hne (by simp [hnil])

theorem createTasklet (hb : b.Served) (h : b.createTasklet env = .ok b') :
    b'.Served ∧ ¬ b'.tasklet < 0 := by
  unfold Blinky.createTasklet at h
  split at h
  · split at h
    · simp at h
    · next hthere =>
      rw [Except.ok.injEq] at h
      subst h
      exact ⟨⟨fun _ => hthere, fun _ => rfl⟩, hthere⟩
  · next hthere =>
    rw [Except.ok.injEq] at h
    exact h ▸ ⟨hb, hthere⟩

theorem requestTimedEvent (hb : b.Served) {type : BlinkyEvent} {delay : ℤ} {sent : Bool}
    (h : b.requestTimedEvent env type delay = .ok (sent, b')) : b'.Served := by
  unfold Blinky.requestTimedEvent at h
  split at h
  · simp at h
  · next hthere =>
    split at h <;> rw [Except.ok.injEq, Prod.mk.injEq] at h <;> rw [← h.2]
    · exact hb.congr rfl rfl (Or.inr hthere)
    · exact hb

theorem requestNextLoopEvent (hb : b.Served) (h : b.requestNextLoopEvent env = .ok b') :
    b'.Served := by
  obtain ⟨⟨sent, b₁⟩, hrequest, h⟩ := bind_eq_ok.mp h
  simp only [pure_eq_ok, Except.ok.injEq] at h
  exact h ▸ hb.requestTimedEvent hrequest

theorem requestAutomaticIncrementEvent (hb : b.Served)
    (h : b.requestAutomaticIncrementEvent env = .ok b') : b'.Served := by
  obtain ⟨⟨sent, b₁⟩, hrequest, h⟩ := bind_eq_ok.mp h
  simp only [pure_eq_ok, Except.ok.injEq] at h
  exact h ▸ hb.requestTimedEvent hrequest

theorem start (hb : b.Served) {pattern : List UInt8} {r success : Bool}
    (h : b.start env pattern r = .ok (success, b')) : b'.Served := by
  obtain ⟨b₁, hcreate, h⟩ := bind_eq_ok.mp h
  obtain ⟨hb₁, hthere⟩ := hb.createTasklet hcreate
  dsimp only at h
  split at h
  · obtain ⟨_, _, _, _, rfl, -⟩ := runStep_keeps h
    exact hb₁.congr rfl rfl (Or.inr hthere)
  · rw [pure_eq_ok, Except.ok.injEq, Prod.mk.injEq] at h
    rw [← h.2]
    exact hb₁.congr rfl rfl (Or.inl rfl)

theorem handlePatternEvent (hb : b.Served) (h : b.handlePatternEvent env = .ok b') :
    b'.Served := by
  obtain ⟨_, _, _, _, rfl, hpending⟩ := handlePatternEvent_keeps h
  exact hb.congr rfl rfl hpending

theorem onEvent (hb : b.Served) {type : BlinkyEvent} (h : b.onEvent env type = .ok b') :
    b'.Served := by
  cases type with
  | loopInit =>
    simp only [Blinky.onEvent] at h
    split at h
    · exact hb.requestNextLoopEvent h
    · simp at h
  | patternTimer => exact hb.handlePatternEvent h
  | loopTimer => exact hb.requestNextLoopEvent h
  | automaticIncrementTimer => exact hb.requestAutomaticIncrementEvent h
  | patternInit =>
    simp only [Blinky.onEvent, Except.ok.injEq] at h
    exact h ▸ hb

end Served

end Blinky

/-! ### The handlers -/

namespace Client

theorem rebootIfThresholdValue_avoids (threshold : ℕ) (c : Client) :
    Avoids (·.isFault = true) (c.rebootIfThresholdValue threshold) := by
  rw [rebootIfThresholdValue_eq]
  split
  · exact avoids_error (by decide)
  · exact avoids_ok _

theorem requestNextWakeUp_avoids (env : Env) (c : Client) :
    Avoids (·.isFault = true) (c.requestNextWakeUp env) := by
  unfold requestNextWakeUp
  split
  · exact avoids_ok _
  · dsimp only
    split
    · exact avoids_ok _
    · exact avoids_error (by decide)

end Client

namespace App

variable {a b : App} {env : Env}

theorem pdmcClientRegistered_avoids (env : Env) (a : App) :
    Avoids (·.isFault = true) (a.pdmcClientRegistered env) := by
  refine (Blinky.createTasklet_avoids env _).bind fun b₁ _ => ?_
  refine (Blinky.requestNextLoopEvent_avoids env b₁).bind fun b₂ _ => ?_
  refine (Blinky.requestAutomaticIncrementEvent_avoids env b₂).bind fun _ _ => ?_
  exact (Client.requestNextWakeUp_avoids env _).bind fun _ _ => avoids_ok _

theorem pdmcEventHandler_avoids (env : Env) (e : ClientEvent) (a : App) :
    Avoids (·.isFault = true) (a.pdmcEventHandler env e) := by
  obtain ⟨type, id⟩ := e
  cases type with
  | startup => exact avoids_ok _
  | code errorCode =>
    cases id with
    | objectRegistered => exact pdmcClientRegistered_avoids env a
    | error =>
      have herror : Avoids (·.isFault = true) (a.client.pdmcClientErrorEvent errorCode) := by
        unfold Client.pdmcClientErrorEvent
        split
        · exact Client.rebootIfThresholdValue_avoids _ _
        · exact avoids_ok _
      exact herror.bind fun _ _ => avoids_ok _
    | _ => exact avoids_ok _

/-- What a handler relies on: there is a tasklet for the events that are pending, and a
pattern for the resource that plays it. -/
structure Ready (a : App) : Prop where
  served : a.blinky.Served
  pattern : a.registry.blink = true → a.registry.pattern.isSome = true

theorem blinkyEventHandlerWrapper_avoids {type : BlinkyEvent} (ha : a.blinky.staticBlinky = true)
    (hplays : type = .patternTimer → ∃ v, Plays a.blinky v) :
    Avoids (·.isFault = true) (a.blinkyEventHandlerWrapper env type) := by
  cases type with
  | loopInit =>
    simp only [blinkyEventHandlerWrapper, ha, if_true]
    exact (Blinky.requestNextLoopEvent_avoids env a.blinky).bind fun _ _ => avoids_ok _
  | patternInit => exact avoids_ok _
  | patternTimer =>
    obtain ⟨v, hv⟩ := hplays rfl
    exact (Blinky.handlePatternEvent_avoids hv env).bind fun _ _ => avoids_ok _
  | loopTimer =>
    refine (Blinky.requestNextLoopEvent_avoids env a.blinky).bind fun _ _ => ?_
    dsimp only
    split <;> exact avoids_ok _
  | automaticIncrementTimer =>
    refine (Blinky.requestAutomaticIncrementEvent_avoids env a.blinky).bind fun _ _ => ?_
    dsimp only
    split <;> exact avoids_ok _

/-- **No handler faults**, but for a pattern timer that finds no pattern and a POST that
cannot read one. -/
theorem handle_avoids (ha : a.Ready) {h : Handler}
    (hplays : ∀ env, h = .taskletEvent env .patternTimer → ∃ v, Plays a.blinky.patternOnly v)
    (hreads : ∀ env path token, h = .blinkCallback env .execute path token →
      env.registryGetValueString = true) :
    Avoids (·.isFault = true) (a.handle h) := by
  cases h with
  | clientEvent env e =>
    simp only [handle]
    split
    · exact pdmcEventHandler_avoids env e a
    · exact avoids_error (by decide)
  | taskletEvent env type =>
    simp only [handle]
    split
    · next hpending =>
      have htasklet := ha.served.tasklet (List.ne_nil_of_mem hpending)
      refine blinkyEventHandlerWrapper_avoids (ha.served.static htasklet) ?_
      rintro rfl
      obtain ⟨v, hv⟩ := hplays env rfl
      exact ⟨_, (Blinky.plays_of_patternOnly hv htasklet).deliver⟩
    · exact avoids_error (by decide)
  | blinkCallback env type path token =>
    simp only [handle]
    split
    · next hblink =>
      obtain ⟨patternStr, hpattern⟩ := Option.isSome_iff_exists.mp (ha.pattern hblink)
      cases type with
      | execute =>
        have hread := patternStr_eq_some.mpr ⟨hreads env path token rfl, hpattern⟩
        simp only [blinkCallback, hread]
        exact (Blinky.start_avoids env _ false a.blinky).bind fun _ _ => avoids_ok _
      | _ => exact avoids_ok _
    · exact avoids_error (by decide)
  | sendApplicationResponse =>
    simp only [handle]
    split
    · exact avoids_error (by decide)
    · exact avoids_ok _
  | _ =>
    simp only [handle]
    split
    · exact avoids_ok _
    · exact avoids_error (by decide)

/-- Every handler keeps what the handlers rely on. -/
theorem Ready.handle (ha : a.Ready) {h : Handler} (hb : a.handle h = .ok b) : b.Ready := by
  obtain ⟨counter, hregistry⟩ := handle_registry hb
  refine ⟨?_, ?_⟩
  · cases handles_of_handle hb with
    | clientEvent _ h =>
      rcases pdmcEventHandler_spec h with ⟨-, h⟩ | ⟨-, rfl⟩
      · obtain ⟨b₁, b₂, blinky, _, h₁, h₂, h₃, -, rfl⟩ := pdmcClientRegistered_spec h
        have hserved₁ := (ha.served.createTasklet h₁).1
        exact (hserved₁.requestNextLoopEvent h₂).requestAutomaticIncrementEvent h₃
      · exact ha.served
    | taskletEvent _ hevent hclicked =>
      have hserved := (ha.served.erase _).onEvent hevent
      obtain ⟨_, _, _, _, rfl, -⟩ := hclicked
      exact hserved.congr rfl rfl (Or.inl rfl)
    | blinkExecute hstart => exact ha.served.start hstart
    | _ => exact ha.served
  · rw [hregistry]
    intro hblink
    obtain ⟨patternStr, hpattern⟩ := Option.isSome_iff_exists.mp (ha.pattern hblink)
    dsimp only
    rw [hpattern]
    cases (Input.run h).pattern <;> rfl

/-- Starting the client makes no resource that plays a pattern without one. -/
theorem Ready.initPdmcClient (ha : a.Ready) (env : ResourceEnv) : (a.initPdmcClient env).Ready := by
  obtain ⟨_, _, hspec⟩ := initPdmcClient_spec env a
  refine ⟨?_, ?_⟩
  · rw [hspec]
    exact ha.served
  · obtain ⟨addButton, setCounter, addPattern, setPattern, addBlink, addUnregister⟩ := env
    -- the resource that plays comes after the pattern it plays
    cases addButton
    · exact ha.pattern
    cases setCounter
    · exact ha.pattern
    cases addPattern
    · exact ha.pattern
    cases setPattern
    · exact ha.pattern
    cases addBlink
    · exact fun _ => rfl
    cases addUnregister <;> exact fun _ => rfl

end App

/-! ### The connection -/

/-- What ends the wait makes `init_connection` call a method of the interface. -/
def ConnPoint.derefs : ConnPoint → DriverInput → Bool
  | .setBlocking, .setBlockingReturns _ => true
  | .check _, .proceed => true
  | .wait i, .proceed => i + 1 ≤ platformConnectionRetryCount
  | .connectBlocking _, .connectReturns _ => true
  | .waitBlocking i, .proceed => i + 1 ≤ platformConnectionRetryCount
  | _, _ => false

/-- The interface is found, or closed. -/
def NetEntry.isOpening : NetEntry → Bool
  | .initConnection => true
  | .closed => true
  | _ => false

namespace Net

variable {n n' : Net}

theorem attempt_eq_error_iff {i : ℕ} {e : Stop} :
    n.attempt i = .error e ↔
      i ≤ platformConnectionRetryCount ∧ n.networkInterface = none ∧ e = .nullDereference := by
  unfold attempt deref
  cases n.networkInterface <;> split <;> simp_all [eq_comm]

theorem attemptBlocking_eq_error_iff {i : ℕ} {e : Stop} :
    n.attemptBlocking i = .error e ↔
      i ≤ platformConnectionRetryCount ∧ n.networkInterface = none ∧ e = .nullDereference := by
  unfold attemptBlocking deref
  cases n.networkInterface <;> split <;> simp_all [eq_comm]

/-- **Where `init_connection` reads through NULL**: where it calls a method of an interface
that has been closed.  There is no other way for it to stop. -/
theorem connStep_error_iff {p : ConnPoint} {r : DriverInput} {e : Stop} (he : e ≠ .refused) :
    n.connStep p r = .error e ↔
      n.networkInterface = none ∧ p.derefs r = true ∧ e = .nullDereference := by
  have he' : Stop.refused ≠ e := Ne.symm he
  cases p with
  | setBlocking =>
    cases r with
    | setBlockingReturns err =>
      simp only [connStep]
      split
      · rw [attempt_eq_error_iff]
        simp [platformConnectionRetryCount, ConnPoint.derefs]
      · rw [attemptBlocking_eq_error_iff]
        simp [platformConnectionRetryCount, ConnPoint.derefs]
    | _ => simp [connStep, ConnPoint.derefs, he']
  | connect i =>
    cases r with
    | connectReturns err => cases err <;> simp [connStep, ConnPoint.derefs]
    | _ => simp [connStep, ConnPoint.derefs, he']
  | connected i => cases r <;> simp [connStep, ConnPoint.derefs, he']
  | dispatch i =>
    cases r with
    | dispatchReturns =>
      simp only [connStep]
      split <;> simp [ConnPoint.derefs, he']
    | _ => simp [connStep, ConnPoint.derefs, he']
  | check i =>
    cases r with
    | proceed =>
      simp only [connStep, deref]
      cases n.networkInterface with
      | none => simpa [ConnPoint.derefs] using eq_comm
      | some iface => simp
    | _ => simp [connStep, ConnPoint.derefs, he']
  | disconnect i => cases r <;> simp [connStep, ConnPoint.derefs, he']
  | wait i =>
    cases r with
    | proceed =>
      simp only [connStep]
      rw [attempt_eq_error_iff]
      simp [ConnPoint.derefs, and_left_comm]
    | _ => simp [connStep, ConnPoint.derefs, he']
  | connectBlocking i =>
    cases r with
    | connectReturns err =>
      simp only [connStep, deref]
      cases n.networkInterface with
      | none => simpa [ConnPoint.derefs] using eq_comm
      | some iface => cases err <;> simp
    | _ => simp [connStep, ConnPoint.derefs, he']
  | disconnectBlocking i => cases r <;> simp [connStep, ConnPoint.derefs, he']
  | waitBlocking i =>
    cases r with
    | proceed =>
      simp only [connStep]
      rw [attemptBlocking_eq_error_iff]
      simp [ConnPoint.derefs, and_left_comm]
    | _ => simp [connStep, ConnPoint.derefs, he']

/-- `init_connection` has found an interface, and it has not been closed since. -/
def opened (n : Net) : Bool := (n.log.find? NetEntry.isOpening).any (· == .initConnection)

/-- There is an interface exactly if one is open. -/
def Opens (n : Net) : Prop := n.networkInterface.isSome = n.opened

/-- Nothing is opened or closed by what is added to the log. -/
theorem Opens.congr (hn : n.Opens) (hiface : n'.networkInterface = n.networkInterface)
    (es : List NetEntry) (hlog : n'.log = es ++ n.log) (hes : ∀ e ∈ es, e.isOpening = false) :
    n'.Opens := by
  have hnone : es.find? NetEntry.isOpening = none :=
    List.find?_eq_none.mpr fun e he => by simp [hes e he]
  rw [Opens, hiface, opened, hlog, List.find?_append, hnone, Option.none_or]
  exact hn

/-- The callback opens and closes nothing. -/
theorem isOpening_of_isCallback {e : NetEntry} (h : e.isCallback = true) :
    e.isOpening = false := by
  cases e <;> first | rfl | simp [NetEntry.isCallback] at h

theorem Opens.networkStatusCallback (hn : n.Opens) (event : NsapiEvent) (status : NsapiStatus) :
    (n.networkStatusCallback event status).Opens := by
  obtain ⟨es, hlog, hes⟩ := networkStatusCallback_log event status n
  have hiface := networkStatusCallback_networkInterface event status n
  exact hn.congr hiface es hlog fun e he => isOpening_of_isCallback (hes e he)

/-- From one wait of `init_connection` to the next nothing is opened or closed. -/
theorem Opens.connStep (hn : n.Opens) {p : ConnPoint} {r : DriverInput} {next : ConnNext}
    (h : n.connStep p r = .ok (n', next)) : n'.Opens := by
  have hattempt : ∀ {m : Net} {i : ℕ}, n.attempt i = .ok (m, next) → m.Opens := by
    intro m i h
    rcases attempt_cases h with ⟨-, rfl, -⟩ | ⟨rfl, -⟩
    · exact hn.congr rfl [_] rfl (by simp [NetEntry.isOpening])
    · exact hn
  have hblocking : ∀ {m : Net} {i : ℕ}, n.attemptBlocking i = .ok (m, next) → m.Opens := by
    intro m i h
    rcases attemptBlocking_cases h with ⟨-, rfl, -⟩ | ⟨rfl, -⟩
    · exact hn.congr rfl [_] rfl (by simp [NetEntry.isOpening])
    · exact hn
  have hiface := connStep_networkInterface h
  cases connSteps_of_connStep h with
  | nonBlocking h => exact hattempt h
  | blocking _ h => exact hblocking h
  | retries h => exact hattempt h
  | retriesBlocking h => exact hblocking h
  | alreadyConnected =>
    obtain ⟨es, hlog, hes⟩ := sendNetworkEvent_log .globalUp
      { n.record (.connectReturned false .isConnected) with interfaceConnected := true }
    refine hn.congr hiface (es ++ [.connectReturned false .isConnected]) ?_ ?_
    · rw [hlog]
      simp [record]
    · intro e he
      rcases List.mem_append.mp he with he | he
      · exact isOpening_of_isCallback (hes e he)
      · rw [List.mem_singleton.mp he]
        rfl
  | connectFails => exact hn.congr hiface [_] rfl (by simp [NetEntry.isOpening])
  | connectReturns => exact hn.congr hiface [_] rfl (by simp [NetEntry.isOpening])
  | dispatches => exact hn.congr hiface [_] rfl (by simp [NetEntry.isOpening])
  | blockingFails => exact hn.congr hiface [_] rfl (by simp [NetEntry.isOpening])
  | blockingConnects => exact hn.congr hiface [_] rfl (by simp [NetEntry.isOpening])
  | _ => exact hn.congr hiface [] rfl (by simp)

/-- `init_connection` opens the interface it finds. -/
theorem Opens.initConnection (hn : n.Opens) (hlinked : n.Linked) (id : ℤ) :
    (n.initConnection id).1.Opens := by
  unfold Net.initConnection
  dsimp only
  split
  · next hnone =>
    -- there never was an interface
    have hno : n.networkInterface.isSome = false := by
      rw [← Bool.not_eq_true]
      intro hsome
      have hdefault := hlinked.default hsome
      rw [hnone] at hdefault
      exact absurd hdefault (by decide)
    show n.defaultInstance.isSome = n.opened
    rw [hnone, ← hn, hno]
    rfl
  · next iface hsome =>
    show n.defaultInstance.isSome = _
    rw [hsome]
    rfl

/-- `close_connection` closes it, or leaves it as it is. -/
theorem Opens.closeStep (hn : n.Opens) (err : NsapiError) : (n.closeStep err).1.Opens := by
  unfold Net.closeStep
  split
  · rfl
  · exact hn

end Net

/-! ### What the device does not survive -/

/-- A step that reads through NULL: a pattern timer comes, and there was no memory for the
pattern of the last POST; or `init_connection` calls a method of an interface that has been
closed since it was found. -/
inductive ReadsNull (pre : List Input) (d : Device) : Input → Prop where
  | patternTimer {env : Env} {p : Posted} (hdispatch : d.dispatches = true)
      (hpending : .patternTimer ∈ d.app.blinky.pending) (hlast : lastPost pre = some p)
      (hmalloc : p.malloc = false) : ReadsNull pre d (.run (.taskletEvent env .patternTimer))
  | interface {caller : Caller} {timeoutMs : ℤ} {p : ConnPoint} {stack : List Frame}
      {r : DriverInput} (hstack : d.stack = .attempt caller timeoutMs p :: stack)
      (hderefs : p.derefs r = true) (hclosed : d.app.net.opened = false) :
      ReadsNull pre d (.driver r)

/-- A step that reads through a pointer that was never set: a POST comes, and the registry
does not give the pattern. -/
inductive ReadsUnset (d : Device) : Input → Prop where
  | post {env : Env} {path : RegistryPath} {token : Token} (hdispatch : d.dispatches = true)
      (hblink : d.app.registry.blink = true) (hread : env.registryGetValueString = false) :
      ReadsUnset d (.run (.blinkCallback env .execute path token))

/-- Where a pattern timer is pending, a pattern is played, or there was no memory for that of
the last POST. -/
theorem HoldsPlayback.plays_or_null_of_pending {last : Option Posted} {b : Blinky}
    (h : HoldsPlayback last b.patternOnly) (hpending : .patternTimer ∈ b.pending) :
    (∃ v, Plays b.patternOnly v) ∨
      ∃ p, last = some p ∧ p.malloc = false ∧ b.currPattern = none := by
  cases last with
  | none =>
    -- before the first POST no pattern timer is pending
    have hcount := h.2.2
    rw [Blinky.patternOnly_pendingCount] at hcount
    exact absurd hcount (Nat.pos_iff_ne_zero.mp (mem_pending_iff.mp hpending))
  | some p =>
    dsimp only [HoldsPlayback] at h
    split at h
    · obtain ⟨v, hv, -⟩ := h
      exact Or.inl ⟨v, hv⟩
    · next hmalloc => exact Or.inr ⟨p, rfl, by simpa using hmalloc, h.2⟩

/-- A pattern timer without a pattern is delivered all the same. -/
theorem App.handle_patternTimer_of_null {a : App} {env : Env}
    (hpending : .patternTimer ∈ a.blinky.pending) (hnull : a.blinky.currPattern = none) :
    a.handle (.taskletEvent env .patternTimer) = .error .nullDereference := by
  have hevent := Blinky.handlePatternEvent_of_null
    (b := { a.blinky with pending := a.blinky.pending.erase .patternTimer }) hnull env
  simp only [handle, hpending, if_true, blinkyEventHandlerWrapper, hevent, error_bind]

namespace Device

variable {d t : Device} {i : Input} {pre : List Input}

/-- Every step keeps what the handlers rely on. -/
theorem step_ready (hstep : d.step i = .ok t) (hd : d.app.Ready) : t.app.Ready := by
  rcases step_cases hstep with ⟨h, rfl, -⟩ | ⟨env, -, heq⟩ | ⟨hrun, hinit, huntouched⟩
  · exact hd.handle (handle_of_step hstep)
  · rw [heq]
    exact hd.initPdmcClient env
  · have hregistry := registry_eq_of_steps (steps_of_step hstep) hrun hinit
    refine ⟨?_, ?_⟩
    · rw [huntouched.blinky]
      exact hd.served
    · rw [hregistry]
      exact hd.pattern

/-- Every step opens and closes what it says. -/
theorem step_opens (hstep : d.step i = .ok t) (hlinked : d.app.net.Linked)
    (hd : d.app.net.Opens) : t.app.net.Opens := by
  cases steps_of_step hstep with
  | status => exact hd.networkStatusCallback _ _
  | run _ hhandles =>
    show Net.Opens _
    rw [(Local.handles hhandles).net]
    exact hd
  | wakeUpAwake _ _ hwake =>
    obtain ⟨client, -, rfl⟩ := App.wakeUp_spec hwake
    exact hd
  | wakeUpPaused _ _ hwake =>
    obtain ⟨client, -, rfl⟩ := App.wakeUp_spec hwake
    exact hd.initConnection hlinked (-1)
  | connects _ hconn => exact hd.connStep hconn
  | retries _ hretry =>
    obtain ⟨-, -, rfl⟩ := App.retryInitConnection_eq_ok hretry
    exact hd.initConnection hlinked (-1)
  | @sleeps stack err => exact hd.closeStep err
  | @initPdmcClient env =>
    obtain ⟨_, _, hspec⟩ := App.initPdmcClient_spec env d.app
    rw [hspec]
    exact hd
  | _ => exact hd

/-- What is known of a device wherever a fault may come. -/
theorem run_ready {defaultInstance : Option NetworkInterface} {is : List Input}
    (hrun : run step (boot defaultInstance) is = .ok t) : t.app.Ready ∧ t.app.net.Opens := by
  refine run_induction (P := fun _ (t : Device) => t.app.Ready ∧ t.app.net.Opens) ?_ ?_ hrun
  · refine ⟨⟨⟨by simp [boot, attempt, settle, App.enterInitConnection], ?_⟩, ?_⟩, ?_⟩
    · intro htasklet
      exact absurd (show (-1 : ℤ) < 0 by omega) htasklet
    · intro hblink
      exact absurd hblink Bool.false_ne_true
    · exact Net.Opens.initConnection (n := { defaultInstance }) rfl
        ⟨by simp, by simp, by simp, by simp, rfl⟩ (-1)
  · intro is d i t hd hind hstep
    exact ⟨step_ready hstep hind.1, step_opens hstep (run_linked hd).net hind.2⟩

/-- What a step may fault by. -/
def Faults (pre : List Input) (d : Device) (i : Input) (e : Stop) : Prop :=
  e = .nullDereference ∧ ReadsNull pre d i ∨ e = .danglingPointer ∧ ReadsUnset d i

/-- A POST faults exactly where the registry does not give the pattern. -/
theorem post_error_iff {env : Env} {path : RegistryPath} {token : Token} {e : Stop}
    (hd : d.app.Ready) (he : e.isFault = true) :
    d.step (.run (.blinkCallback env .execute path token)) = .error e ↔
      e = .danglingPointer ∧ ReadsUnset d (.run (.blinkCallback env .execute path token)) := by
  constructor
  · intro hstep
    simp only [step] at hstep
    split at hstep
    · next hdispatch =>
      have hhandle := bind_pure_eq_error.mp hstep
      cases hread : env.registryGetValueString with
      | true =>
        refine absurd he (App.handle_avoids hd (by simp) ?_ e hhandle)
        intro env' path' token' heq
        rw [Handler.blinkCallback.injEq] at heq
        exact heq.1 ▸ hread
      | false =>
        simp only [App.handle] at hhandle
        split at hhandle
        · next hblink =>
          rw [App.blinkCallback_of_not_read hread, Except.error.injEq] at hhandle
          exact ⟨hhandle.symm, .post hdispatch hblink hread⟩
        · -- there is no such resource
          rw [Except.error.injEq] at hhandle
          rw [← hhandle] at he
          exact absurd he (by decide)
    · rw [Except.error.injEq] at hstep
      rw [← hstep] at he
      exact absurd he (by decide)
  · rintro ⟨rfl, hreads⟩
    cases hreads with
    | post hdispatch hblink hread =>
      simp only [step, hdispatch, if_true, App.handle, hblink, App.blinkCallback_of_not_read hread,
        error_bind]

/-- A handler faults exactly where it reads through a wild pointer. -/
theorem run_error_iff {h : Handler} {e : Stop} (hd : d.app.Ready)
    (hheld : HoldsPlayback (lastPost pre) d.app.blinky.patternOnly) (he : e.isFault = true) :
    d.step (.run h) = .error e ↔ d.Faults pre (.run h) e := by
  by_cases hpost : ∃ env path token, h = .blinkCallback env .execute path token
  · obtain ⟨env, path, token, rfl⟩ := hpost
    rw [post_error_iff hd he]
    refine ⟨Or.inr, ?_⟩
    rintro (⟨-, ⟨⟩⟩ | hunset)
    exact hunset
  -- a pattern timer is what is left
  have hreads : ∀ env path token, h = .blinkCallback env .execute path token →
      env.registryGetValueString = true :=
    fun env path token heq => absurd ⟨env, path, token, heq⟩ hpost
  constructor
  · intro hstep
    simp only [step] at hstep
    split at hstep
    · next hdispatch =>
      have hhandle : d.app.handle h = .error e := bind_pure_eq_error.mp hstep
      by_cases htimer : ∃ env, h = .taskletEvent env .patternTimer
      · obtain ⟨env, rfl⟩ := htimer
        by_cases hpending : .patternTimer ∈ d.app.blinky.pending
        · rcases hheld.plays_or_null_of_pending hpending with hplays | ⟨p, hlast, hmalloc, hnull⟩
          · exact absurd he (App.handle_avoids hd (fun _ _ => hplays) hreads e hhandle)
          · rw [App.handle_patternTimer_of_null hpending hnull, Except.error.injEq] at hhandle
            exact Or.inl ⟨hhandle.symm, .patternTimer hdispatch hpending hlast hmalloc⟩
        · -- the scheduler delivers only what is pending
          simp only [App.handle, hpending, if_false, Except.error.injEq] at hhandle
          rw [← hhandle] at he
          exact absurd he (by decide)
      · refine absurd he (App.handle_avoids hd ?_ hreads e hhandle)
        intro env heq
        exact absurd ⟨env, heq⟩ htimer
    · rw [Except.error.injEq] at hstep
      rw [← hstep] at he
      exact absurd he (by decide)
  · rintro (⟨rfl, hnull⟩ | ⟨-, hunset⟩)
    · cases hnull with
      | @patternTimer env p hdispatch hpending hlast hmalloc =>
        rw [hlast] at hheld
        dsimp only [HoldsPlayback] at hheld
        rw [hmalloc, if_neg Bool.false_ne_true] at hheld
        simp only [step, hdispatch, if_true, App.handle_patternTimer_of_null hpending hheld.2,
          error_bind]
    · cases hunset
      exact absurd ⟨_, _, _, rfl⟩ hpost

/-- So does the function on top of the stack. -/
theorem goOn_error_iff {answer : DriverInput} {e : Stop} (hd : d.Nested pre)
    (hopens : d.app.net.Opens) (he : e.isFault = true) :
    d.step (.driver answer) = .error e ↔ d.Faults pre (.driver answer) e := by
  have hrefused : Stop.refused ≠ e := by
    rintro rfl
    exact absurd he (by decide)
  constructor
  · intro hstep
    simp only [step, goOn] at hstep
    split at hstep
    · next hstack =>
      obtain ⟨hnull, hderefs, hne⟩ :=
        (Net.connStep_error_iff (Ne.symm hrefused)).mp (bind_pure_eq_error.mp hstep)
      refine Or.inl ⟨hne, .interface hstack hderefs ?_⟩
      rw [← hopens, hnull]
      rfl
    · -- waiting for the next attempt, the device reboots at most
      exfalso
      have hretry := bind_pure_eq_error.mp (bind_pure_eq_error.mp hstep)
      exact Client.rebootIfThresholdValue_avoids _ _ e hretry he
    · simp at hstep
    · simp at hstep
    -- no break ends the dispatch of `main`
    · next hstack =>
      rw [hd.not_breakRequested hstack, if_neg Bool.false_ne_true, Except.error.injEq] at hstep
      exact absurd hstep hrefused
    · rw [Except.error.injEq] at hstep
      exact absurd hstep hrefused
  · rintro (⟨rfl, hreads⟩ | ⟨-, ⟨⟩⟩)
    cases hreads with
    | interface hstack hderefs hclosed =>
      have hnull : d.app.net.networkInterface = none := by
        rw [← Option.not_isSome_iff_eq_none, hopens, hclosed]
        exact Bool.false_ne_true
      have hconn := (Net.connStep_error_iff hrefused.symm).mpr ⟨hnull, hderefs, rfl⟩
      simp only [step, goOn, hstack, hconn, error_bind]

/-- A wake-up reboots at most, before it connects. -/
theorem wakeUp_avoids (env : Env) (type : WakeUpEvent) (d : Device) :
    Avoids (·.isFault = true) (d.wakeUp env type) := by
  simp only [wakeUp]
  split
  · cases type with
    | init => exact avoids_ok _
    | wake =>
      have hwake : ∀ a : App, Avoids (·.isFault = true) (a.wakeUp env) := fun a =>
        (Client.requestNextWakeUp_avoids env _).bind fun _ _ => avoids_ok _
      refine (hwake _).bind fun a _ => ?_
      split <;> exact avoids_ok _
  · exact avoids_error (by decide)

/-- **Every fault is a read through a wild pointer in one of the three places.** -/
theorem step_error_iff {e : Stop} (hready : d.app.Ready) (hopens : d.app.net.Opens)
    (hheld : HoldsPlayback (lastPost pre) d.app.blinky.patternOnly) (hnested : d.Nested pre)
    (he : e.isFault = true) :
    d.step i = .error e ↔ d.Faults pre i e := by
  -- what is refused cannot come, and is no fault
  have hrefused : Stop.refused ≠ e := by
    rintro rfl
    exact absurd he (by decide)
  cases i with
  | run h => exact run_error_iff hready hheld he
  | driver r => exact goOn_error_iff hnested hopens he
  | status event status =>
    refine iff_of_false ?_ (by rintro (⟨-, ⟨⟩⟩ | ⟨-, ⟨⟩⟩))
    simp only [step]
    split <;> simp [hrefused]
  | press buttons => exact iff_of_false (by simp [step]) (by rintro (⟨-, ⟨⟩⟩ | ⟨-, ⟨⟩⟩))
  -- outside the loop of `main` the assertions may fail, but no pointer is read
  | wakeUp env type =>
    refine iff_of_false ?_ (by rintro (⟨-, ⟨⟩⟩ | ⟨-, ⟨⟩⟩))
    simp only [step]
    split
    · exact fun hstep => wakeUp_avoids env type d e hstep he
    · simp [hrefused]
  | sleep =>
    refine iff_of_false ?_ (by rintro (⟨-, ⟨⟩⟩ | ⟨-, ⟨⟩⟩))
    simp only [step]
    split <;> simp [hrefused]
  | initPdmcClient env =>
    refine iff_of_false ?_ (by rintro (⟨-, ⟨⟩⟩ | ⟨-, ⟨⟩⟩))
    simp only [step]
    split <;> simp [hrefused]

end Device

/-- **`main` never returns.**  The device reads through NULL exactly when a pattern timer
comes for a pattern there was no memory for, or `init_connection` goes on with an interface
that has been closed; and it reads through another wild pointer exactly when a POST comes
and the registry does not give the pattern. -/
theorem device_faults (defaultInstance : Option NetworkInterface) (is : List Input) :
    EachStep Device.step (.boot defaultInstance) is fun pre d i =>
      d.step i ≠ .error .mainReturned ∧
        (d.step i = .error .nullDereference ↔ ReadsNull pre d i) ∧
        (d.step i = .error .danglingPointer ↔ ReadsUnset d i) := by
  intro pre i d _ hd
  obtain ⟨hready, hopens⟩ := Device.run_ready hd
  have hheld := (Device.run_holdsPlayback hd).2
  have hfault : ∀ e : Stop, e.isFault = true → (d.step i = .error e ↔ d.Faults pre i e) :=
    fun _ he => Device.step_error_iff hready hopens hheld (Device.run_nested hd) he
  refine ⟨?_, ?_, ?_⟩
  · rw [Ne, hfault _ rfl]
    simp [Device.Faults]
  · rw [hfault _ rfl]
    simp [Device.Faults]
  · rw [hfault _ rfl]
    simp [Device.Faults]

/-- A client that is put to sleep while it resumes, after the link has come up: the dispatch
comes back to an interface that is closed. -/
example : ∃ d, run Device.step (.boot (some ⟨0⟩))
    (Device.startUp ++ [.run (.clientEvent {} ⟨.code .none, .objectRegistered⟩),
      .sleep, .driver (.disconnectReturns .ok), .wakeUp {} .wake,
      .driver (.setBlockingReturns .ok), .driver (.connectReturns .ok), .driver .proceed,
      .status .connectionStatusChange .globalUp, .sleep, .driver (.disconnectReturns .ok),
      .driver .dispatchReturns]) = .ok d ∧
    d.step (.driver .proceed) = .error .nullDereference :=
  ⟨_, rfl, rfl⟩

end PelionClientLite
