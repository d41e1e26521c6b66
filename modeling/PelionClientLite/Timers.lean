import PelionClientLite.Device

/-!
# The periodic timers

The tasklet of `blinky.cpp` keeps two timers going, one for the buttons and one for
the automatic increment: the handler of each asks for the next.  They are started
by the initial event of the tasklet and by every registration, and nothing ever
stops them, so each start is one more chain.

## Main definitions

* `registrations`, `loopInits` — how often a chain has been started.
* `OneOfEach` — after a registration, one timer of each kind is pending.
* `RegisteredOnce` — there has been one registration, and no other start.

## Main results

* `Device.run_timers` — as many timers are pending as chains were started.
* `oneOfEach_iff` — **one timer of each kind is pending exactly as long as one
  registration has been all that started them.**
-/

namespace PelionClientLite

open Machine

/-! ### Who starts a timer -/

namespace Blinky

variable {b b' : Blinky} {env : Env}

/-- The periodic timers pending are as many as before. -/
def SamePeriodic (b b' : Blinky) : Prop :=
  b'.pendingCount .loopTimer = b.pendingCount .loopTimer ∧
    b'.pendingCount .automaticIncrementTimer = b.pendingCount .automaticIncrementTimer

theorem SamePeriodic.trans {b'' : Blinky} (h : b.SamePeriodic b') (h' : b'.SamePeriodic b'') :
    b.SamePeriodic b'' :=
  ⟨h'.1.trans h.1, h'.2.trans h.2⟩

theorem samePeriodic_of_pending_eq (h : b'.pending = b.pending) : b.SamePeriodic b' := by
  simp only [SamePeriodic, pendingCount, h, and_self]

/-- An event of another kind is one more pending, or one less. -/
theorem samePeriodic_cons {type : BlinkyEvent} (h : b'.pending = type :: b.pending)
    (hloop : type ≠ .loopTimer) (hincr : type ≠ .automaticIncrementTimer) :
    b.SamePeriodic b' := by
  simp only [SamePeriodic, pendingCount, h]
  exact ⟨List.count_cons_of_ne hloop, List.count_cons_of_ne hincr⟩

theorem requestTimedEvent_pending {type : BlinkyEvent} {delay : ℤ} {sent : Bool}
    (h : b.requestTimedEvent env type delay = .ok (sent, b')) :
    (env.sendAfter type = true ∧ b'.pending = type :: b.pending) ∨
      (env.sendAfter type = false ∧ b' = b) := by
  unfold requestTimedEvent at h
  split at h
  · simp at h
  · split at h
    · next hsend =>
      simp only [Except.ok.injEq, Prod.mk.injEq] at h
      rw [← h.2]
      exact Or.inl ⟨hsend, rfl⟩
    · next hsend =>
      simp only [Except.ok.injEq, Prod.mk.injEq] at h
      exact Or.inr ⟨by simpa using hsend, h.2.symm⟩

/-- What is asked for is pending, if the event system takes it. -/
theorem requestTimedEvent_granted {type : BlinkyEvent} {delay : ℤ} {sent : Bool}
    (hsend : env.sendAfter type = true) (h : b.requestTimedEvent env type delay = .ok (sent, b')) :
    b'.pending = type :: b.pending := by
  rcases requestTimedEvent_pending h with ⟨-, hpending⟩ | ⟨hno, -⟩
  · exact hpending
  · rw [hsend] at hno
    exact absurd hno (by decide)

/-- A timer asked for is pending, if the event system takes all events. -/
theorem requestNextLoopEvent_pending (hgranted : ∀ type, env.sendAfter type = true)
    (h : b.requestNextLoopEvent env = .ok b') : b'.pending = .loopTimer :: b.pending := by
  obtain ⟨⟨sent, b₁⟩, h₁, h⟩ := bind_eq_ok.mp h
  simp only [pure_eq_ok, Except.ok.injEq] at h
  rw [← h]
  exact requestTimedEvent_granted (hgranted _) h₁

@[inherit_doc requestNextLoopEvent_pending]
theorem requestAutomaticIncrementEvent_pending (hgranted : ∀ type, env.sendAfter type = true)
    (h : b.requestAutomaticIncrementEvent env = .ok b') :
    b'.pending = .automaticIncrementTimer :: b.pending := by
  obtain ⟨⟨sent, b₁⟩, h₁, h⟩ := bind_eq_ok.mp h
  simp only [pure_eq_ok, Except.ok.injEq] at h
  rw [← h]
  exact requestTimedEvent_granted (hgranted _) h₁

theorem createTasklet_samePeriodic (h : b.createTasklet env = .ok b') : b.SamePeriodic b' := by
  unfold createTasklet at h
  split at h
  · split at h
    · simp at h
    · rw [Except.ok.injEq] at h
      subst h
      exact samePeriodic_cons rfl (by decide) (by decide)
  · rw [Except.ok.injEq] at h
    exact samePeriodic_of_pending_eq (h ▸ rfl)

/-- Playing a step of the pattern leaves the periodic timers. -/
theorem runStep_samePeriodic {success : Bool} (h : b.runStep env = .ok (success, b')) :
    b.SamePeriodic b' := by
  obtain ⟨⟨delay, b₁⟩, h₁, h⟩ := bind_eq_ok.mp h
  have hget : b₁.pending = b.pending := by
    unfold getNextInt at h₁
    split at h₁
    · simp at h₁
    · split at h₁
      · simp at h₁
      · split at h₁
        · rw [Except.ok.injEq, Prod.mk.injEq] at h₁
          rw [← h₁.2]
        · simp at h₁
  refine (samePeriodic_of_pending_eq hget).trans ?_
  dsimp only at h
  split at h
  · simp only [pure_eq_ok, Except.ok.injEq, Prod.mk.injEq] at h
    exact samePeriodic_of_pending_eq (h.2 ▸ rfl)
  · obtain ⟨⟨sent, b₂⟩, h₂, h⟩ := bind_eq_ok.mp h
    dsimp only at h
    split at h
    · simp only [pure_eq_ok, Except.ok.injEq, Prod.mk.injEq] at h
      rw [← h.2]
      rcases requestTimedEvent_pending h₂ with ⟨-, hpending⟩ | ⟨-, hsame⟩
      · exact samePeriodic_cons hpending (by decide) (by decide)
      · have hpending : b₂.pending = b₁.pending := by rw [hsame]
        exact samePeriodic_of_pending_eq hpending
    · simp at h

theorem start_samePeriodic {pattern : List UInt8} {r success : Bool}
    (h : b.start env pattern r = .ok (success, b')) : b.SamePeriodic b' := by
  obtain ⟨b₁, h₁, h⟩ := bind_eq_ok.mp h
  refine (createTasklet_samePeriodic h₁).trans ?_
  dsimp only at h
  split at h
  · -- the buffer and the cursor are nothing to the timers
    have hrun := runStep_samePeriodic h
    exact hrun
  · simp only [pure_eq_ok, Except.ok.injEq, Prod.mk.injEq] at h
    exact samePeriodic_of_pending_eq (h.2 ▸ rfl)

theorem handlePatternEvent_samePeriodic (h : b.handlePatternEvent env = .ok b') :
    b.SamePeriodic b' := by
  obtain ⟨⟨success, b₁⟩, h₁, h⟩ := bind_eq_ok.mp h
  refine (runStep_samePeriodic h₁).trans ?_
  dsimp only at h
  split at h
  · obtain ⟨⟨success', b₂⟩, h₂, h⟩ := bind_eq_ok.mp h
    simp only [pure_eq_ok, Except.ok.injEq] at h
    subst h
    have hrun := runStep_samePeriodic h₂
    exact hrun
  · rw [pure_eq_ok, Except.ok.injEq] at h
    exact samePeriodic_of_pending_eq (h ▸ rfl)

end Blinky

/-! ### How many are pending -/

/-- The input is an OBJECT_REGISTERED event. -/
def Input.isRegistered : Input → Bool
  | .run (.clientEvent _ e) => e.isRegistered
  | _ => false

/-- The input is the initial event of the tasklet. -/
def Input.isLoopInit : Input → Bool
  | .run (.taskletEvent _ .loopInit) => true
  | _ => false

/-- The event system takes every event sent while the input is handled. -/
def Input.SendsGranted : Input → Prop
  | .run (.clientEvent env _) => ∀ type, env.sendAfter type = true
  | .run (.taskletEvent env _) => ∀ type, env.sendAfter type = true
  | _ => True

/-- The timers of the two kinds that are pending. -/
def App.timers (a : App) : ℕ × ℕ :=
  (a.blinky.pendingCount .loopTimer, a.blinky.pendingCount .automaticIncrementTimer)

theorem App.timers_of_samePeriodic {a b : App} (h : a.blinky.SamePeriodic b.blinky) :
    b.timers = a.timers :=
  Prod.ext h.1 h.2

/-- A registration asks for one timer of each kind. -/
theorem App.pdmcClientRegistered_timers {a b : App} {env : Env}
    (hgranted : ∀ type, env.sendAfter type = true) (h : a.pdmcClientRegistered env = .ok b) :
    b.timers = (a.timers.1 + 1, a.timers.2 + 1) := by
  obtain ⟨b₁, b₂, blinky, client, h₁, h₂, h₃, -, rfl⟩ := pdmcClientRegistered_spec h
  have hsame := Blinky.createTasklet_samePeriodic h₁
  have hpending : blinky.pending = .automaticIncrementTimer :: .loopTimer :: b₁.pending := by
    rw [Blinky.requestAutomaticIncrementEvent_pending hgranted h₃,
      Blinky.requestNextLoopEvent_pending hgranted h₂]
  simp only [App.timers, ← hsame.1, ← hsame.2]
  simp [Blinky.pendingCount, hpending]

/-- An event of the tasklet keeps the timers there are, but for its initial event,
which asks for a loop timer that nothing has used up. -/
theorem Blinky.onEvent_timers {b b' : Blinky} {env : Env} {type : BlinkyEvent}
    (hgranted : ∀ type, env.sendAfter type = true) (hpending : type ∈ b.pending)
    (h : { b with pending := b.pending.erase type }.onEvent env type = .ok b') :
    b'.pendingCount .loopTimer =
        b.pendingCount .loopTimer + (if type = .loopInit then 1 else 0) ∧
      b'.pendingCount .automaticIncrementTimer = b.pendingCount .automaticIncrementTimer := by
  have hpos : 0 < b.pending.count type := List.count_pos_iff.mpr hpending
  cases type with
  | loopInit =>
    simp only [onEvent] at h
    split at h
    · have hnext := requestNextLoopEvent_pending hgranted h
      simp [pendingCount, hnext, List.count_erase_of_ne]
    · simp at h
  | patternInit =>
    simp only [onEvent, Except.ok.injEq] at h
    subst h
    simp [pendingCount, List.count_erase_of_ne]
  | patternTimer =>
    have hsame := handlePatternEvent_samePeriodic h
    rw [hsame.1, hsame.2]
    simp [pendingCount, List.count_erase_of_ne]
  | loopTimer =>
    -- the timer delivered is the one asked for again
    have hnext := requestNextLoopEvent_pending hgranted h
    simp [pendingCount, hnext]
    omega
  | automaticIncrementTimer =>
    have hnext := requestAutomaticIncrementEvent_pending hgranted h
    simp [pendingCount, hnext, List.count_erase_of_ne]
    omega

/-- A handler keeps the timers there are, and a registration or the initial event
starts more. -/
theorem App.Handles.timers {a b : App} {h : Handler} (hb : a.Handles h b)
    (hgranted : (Input.run h).SendsGranted) :
    b.timers =
      (a.timers.1 + ((if (Input.run h).isRegistered then 1 else 0) +
          if (Input.run h).isLoopInit then 1 else 0),
        a.timers.2 + if (Input.run h).isRegistered then 1 else 0) := by
  cases hb with
  | clientEvent _ h =>
    rcases App.pdmcEventHandler_spec h with ⟨he, h⟩ | ⟨he, rfl⟩
    · rw [App.pdmcClientRegistered_timers hgranted h]
      simp [Input.isRegistered, Input.isLoopInit, he]
    · simp only [Input.isRegistered, Input.isLoopInit, he, Bool.false_eq_true, if_false, add_zero]
      rfl
  | @taskletEvent env type _ _ hpending hevent hclicked =>
    obtain ⟨hloop, hincr⟩ := Blinky.onEvent_timers hgranted hpending hevent
    obtain ⟨_, _, _, _, rfl, -⟩ := hclicked
    have hinit : (Input.run (.taskletEvent env type)).isLoopInit = decide (type = .loopInit) := by
      cases type <;> rfl
    refine Prod.ext ?_ ?_
    · rw [hinit]
      simp only [Input.isRegistered, Bool.false_eq_true, if_false, zero_add, decide_eq_true_eq]
      exact hloop
    · exact hincr
  | blinkExecute hstart => exact App.timers_of_samePeriodic (Blinky.start_samePeriodic hstart)
  | blinkIgnored => rfl
  | sendApplicationResponse => rfl
  | unregisterCallback => rfl
  | putPattern => rfl
  | putCounter => rfl

/-- The OBJECT_REGISTERED events of a run. -/
def registrations (is : List Input) : ℕ := is.countP (·.isRegistered)

/-- The initial events of the tasklet that a run delivers. -/
def loopInits (is : List Input) : ℕ := is.countP (·.isLoopInit)

/-- **As many timers are pending as chains were started**: every chain goes on for
ever. -/
theorem Device.run_timers {defaultInstance : Option NetworkInterface} {is : List Input}
    {t : Device} (hrun : run Device.step (.boot defaultInstance) is = .ok t)
    (hgranted : ∀ i ∈ is, i.SendsGranted) :
    t.app.timers = (registrations is + loopInits is, registrations is) := by
  refine run_induction (P := fun is (t : Device) => (∀ i ∈ is, i.SendsGranted) →
    t.app.timers = (registrations is + loopInits is, registrations is)) ?_ ?_ hrun hgranted
  · intro _
    rfl
  · intro is d i t _ hd h hgranted
    have hd := hd fun j hj => hgranted j (List.mem_append_left _ hj)
    have hi : i.SendsGranted := hgranted i (by simp)
    simp only [registrations, loopInits, List.countP_append, List.countP_singleton] at hd ⊢
    rcases step_cases h with ⟨h', rfl, hhandles⟩ | ⟨env, rfl, hinit⟩ | ⟨hrun, -, hother⟩
    · rw [hhandles.timers hi, hd]
      refine Prod.ext ?_ rfl
      show _ + _ + (_ + _) = _ + _ + (_ + _)
      omega
    · obtain ⟨counter, registry, hspec⟩ := App.initPdmcClient_spec env d.app
      rw [hinit, hspec]
      exact hd
    · have hno : i.isRegistered = false ∧ i.isLoopInit = false := by
        cases i with
        | run h' => exact absurd rfl (hrun h')
        | _ => exact ⟨rfl, rfl⟩
      rw [App.timers, hother.blinky, ← App.timers, hd, hno.1, hno.2]
      rfl

/-! ### One timer of each kind -/

/-- Once an OBJECT_REGISTERED event has been handled, exactly one loop timer and exactly
one automatic increment timer are pending. -/
def OneOfEach (is : List Input) (d : Device) : Prop :=
  0 < registrations is →
    d.app.blinky.pendingCount .loopTimer = 1 ∧
      d.app.blinky.pendingCount .automaticIncrementTimer = 1

/-- Once an OBJECT_REGISTERED event has been handled, it is the only one so far, and the
initial event of the tasklet has not been delivered. -/
def RegisteredOnce (is : List Input) : Prop :=
  0 < registrations is → registrations is = 1 ∧ loopInits is = 0

/-- **One timer of each kind is pending exactly as long as there has been one
registration and no initial event**, when the event system takes every event. -/
theorem oneOfEach_iff (defaultInstance : Option NetworkInterface) (is : List Input)
    (hgranted : ∀ i ∈ is, i.SendsGranted) :
    Always Device.step (.boot defaultInstance) is OneOfEach ↔
      Always Device.step (.boot defaultInstance) is fun pre _ => RegisteredOnce pre := by
  apply always_congr
  intro pre t hpre ht
  have htimers := Device.run_timers ht fun i hi => hgranted i (hpre.subset hi)
  have hloop : t.app.blinky.pendingCount .loopTimer = registrations pre + loopInits pre :=
    congrArg Prod.fst htimers
  have hincr : t.app.blinky.pendingCount .automaticIncrementTimer = registrations pre :=
    congrArg Prod.snd htimers
  unfold OneOfEach RegisteredOnce
  rw [hloop, hincr]
  constructor <;> intro h hpos <;> have := h hpos <;> omega

/-- The client is told that it has been registered. -/
def registered : Input := .run (.clientEvent {} ⟨.code .none, .objectRegistered⟩)

/-- Up to the first registration there is nothing to tell, after it one of each. -/
theorem oneOfEach_iff_registered :
    Always Device.step (.boot (some ⟨0⟩)) (Device.startUp ++ [registered]) OneOfEach ↔
      Always Device.step (.boot (some ⟨0⟩)) (Device.startUp ++ [registered])
        fun pre _ => RegisteredOnce pre :=
  oneOfEach_iff (some ⟨0⟩) _ (by simp [Device.startUp, registered, Input.SendsGranted])

/-- The initial event that the first registration has queued starts a second loop
timer. -/
theorem not_oneOfEach_loopInit :
    ¬ Always Device.step (.boot (some ⟨0⟩))
        (Device.startUp ++ [registered, .run (.taskletEvent {} .loopInit)]) OneOfEach := by
  intro h
  have hone := h _ _ List.prefix_rfl rfl (by decide)
  exact absurd hone.1 (by decide)

end PelionClientLite
