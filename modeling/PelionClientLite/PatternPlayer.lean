import PelionClientLite.Playback

/-!
# Runs of the pattern player

A player is started any number of times, with any pattern, while the timers it
has requested are delivered one by one in any order with the starts.  `stop` has
no hold on a timer already requested, so a start made while one is pending leaves
two to be delivered.

## Main definitions

* `Player`, `Player.step` — the player as a machine.
* `Counted` — one timer pending while started, none while idle.
* `Isolated` — a start is followed by what it would be followed by on a fresh
  player.
* `Live` — the pattern buffer is live and the cursor points into it.
* `Playing.Harmless` — what a timer that outlived its own pattern may find.

## Main results

* `counted_and_isolated_iff` — **starts are isolated from earlier ones exactly
  when none is made while a timer is pending.**
* `stepsOnLive_iff` — **no timer finds a dead pattern, or toggles the LED for a
  rejected one, exactly when every timer is harmless.**
-/

namespace PelionClientLite

open CLib Machine

/-! ### The player as a machine -/

/-- What may happen to a player. -/
inductive PlayerInput where
  /-- `start` is called. -/
  | start (env : Env) (pattern : List UInt8) (patternRestart : Bool)
  /-- A pending pattern timer is delivered. -/
  | patternTimer (env : Env)

/-- A player, and what the last `start` returned. -/
structure Player where
  blinky : Blinky := {}
  lastStart : Option Bool := none

namespace Player

/-- One step of a player. -/
def step (p : Player) : PlayerInput → Except Stop Player
  | .start env pattern patternRestart => do
      let (ok, b) ← p.blinky.start env pattern patternRestart
      return { blinky := b, lastStart := some ok }
  | .patternTimer env =>
      if .patternTimer ∈ p.blinky.pending then do
        let pending := p.blinky.pending.erase .patternTimer
        let b ← { p.blinky with pending }.handlePatternEvent env
        return { p with blinky := b }
      else .error .refused

/-- How often the LED has been toggled. -/
def toggles (p : Player) : ℕ := p.blinky.log.count .toggleLed

variable {p q : Player} {env : Env}

theorem step_start_spec {pattern : List UInt8} {r : Bool}
    (h : p.step (.start env pattern r) = .ok q) :
    ∃ ok b, p.blinky.start env pattern r = .ok (ok, b) ∧
      q = { blinky := b, lastStart := some ok } := by
  obtain ⟨⟨ok, b⟩, hstart, hq⟩ := bind_eq_ok.mp h
  simp only [pure_eq_ok, Except.ok.injEq] at hq
  exact ⟨ok, b, hstart, hq.symm⟩

theorem step_patternTimer_spec (h : p.step (.patternTimer env) = .ok q) :
    .patternTimer ∈ p.blinky.pending ∧ ∃ b,
      { p.blinky with pending := p.blinky.pending.erase .patternTimer }.handlePatternEvent env =
        .ok b ∧
      q = { p with blinky := b } := by
  simp only [step] at h
  split at h
  · next hmem =>
    obtain ⟨b, hb, hq⟩ := bind_pure_eq_ok.mp h
    exact ⟨hmem, b, hb, hq.symm⟩
  · simp at h

end Player

/-- Handing a timer to the handler leaves one fewer pending. -/
theorem Plays.deliver {b : Blinky} {v : Playback} (h : Plays b v) :
    Plays { b with pending := b.pending.erase .patternTimer } { v with due := v.due - 1 } := by
  refine ⟨h.buffer, h.state, h.restart, ?_, h.log, h.tasklet⟩
  have hdue := h.due
  simp only [Blinky.pendingCount, List.count_erase_self] at hdue ⊢
  rw [hdue]

theorem mem_pending_iff {b : Blinky} {type : BlinkyEvent} :
    type ∈ b.pending ↔ 0 < b.pendingCount type := List.count_pos_iff.symm

/-! ### Isolation -/

/-- Exactly one pattern timer is pending while the player is started, and none
while it is idle. -/
def Counted (b : Blinky) : Prop :=
  b.pendingCount .patternTimer = if b.state = .started then 1 else 0

instance (b : Blinky) : Decidable (Counted b) := inferInstanceAs (Decidable (_ = _))

/-- What is seen of a start and of the next `m` timers: the delays requested and the
LED toggles, newest first, and the state, unless there were not as many timers. -/
def Player.observe (pattern : List UInt8) (patternRestart : Bool) (m : ℕ) (p : Player) :
    Except Stop (List BlinkyCall × BlinkyState) :=
  (run Player.step { p with blinky := { p.blinky with log := [] } }
    (.start {} pattern patternRestart :: List.replicate m (.patternTimer {}))).map
    fun q => (q.blinky.log, q.blinky.state)

/-- A start of `p` is followed by what it is followed by on a fresh player. -/
def Isolated (p : Player) (pattern : List UInt8) (patternRestart : Bool) : Prop :=
  ∀ m, p.observe pattern patternRestart m = Player.observe pattern patternRestart m {}

/-- `malloc` and the timer request succeed. -/
def Env.Granted (env : Env) : Prop := env.malloc = true ∧ env.sendAfter .patternTimer = true

/-- The calls an input leads to are granted. -/
def PlayerInput.Granted : PlayerInput → Prop
  | .start env _ _ => env.Granted
  | .patternTimer env => env.Granted

/-- A start finds no timer of an earlier one pending. -/
def NoTimerPending (p : Player) : PlayerInput → Prop
  | .start _ _ _ => p.blinky.pendingCount .patternTimer = 0
  | .patternTimer _ => True

namespace Playback

/-- Either a timer is pending and the playback is started, or neither. -/
def Settled (v : Playback) : Prop :=
  (v.due = 1 ∧ v.state = .started) ∨ (v.due = 0 ∧ v.state = .idle)

theorem runStep_settled {v : Playback} (h : v.due = 0) : v.runStep.2.Settled := by
  by_cases hneg : v.read < 0
  · rw [runStep_of_neg hneg]
    exact Or.inr ⟨h, rfl⟩
  · rw [runStep_of_nonneg hneg]
    exact Or.inl ⟨by simp [h], rfl⟩

theorem handlePatternEvent_settled {v : Playback} (h : v.due = 0) :
    v.handlePatternEvent.Settled := by
  unfold handlePatternEvent
  split
  · next hcond =>
    -- a failed step has requested nothing, so the second one starts even
    apply runStep_settled
    have hfail : v.runStep.1 = false := by
      simp only [Bool.and_eq_true, Bool.not_eq_true'] at hcond
      exact hcond.1
    by_cases hneg : v.read < 0
    · rw [runStep_of_neg hneg]
      exact h
    · rw [runStep_of_nonneg hneg] at hfail
      simp at hfail
  · exact runStep_settled h

end Playback

theorem counted_of_settled {b : Blinky} {v : Playback} (h : Plays b v) (hv : v.Settled) :
    Counted b := by
  unfold Counted
  rw [h.due, h.state]
  rcases hv with ⟨hdue, hstate⟩ | ⟨hdue, hstate⟩ <;> simp [hdue, hstate]

/-- A timer that is pending and granted does what the playback does. -/
theorem Player.step_timer_of_plays {p : Player} {v : Playback} (h : Plays p.blinky v)
    (hdue : 0 < v.due) {env : Env} (henv : env.sendAfter .patternTimer = true) :
    ∃ b, p.step (.patternTimer env) = .ok { p with blinky := b } ∧
      Plays b { v with due := v.due - 1 }.handlePatternEvent := by
  have hmem : .patternTimer ∈ p.blinky.pending := by
    rw [mem_pending_iff, h.due]
    exact hdue
  rcases Blinky.handlePatternEvent_spec h.deliver env with ⟨hno, -⟩ | ⟨-, b, hok, hb⟩
  · rw [henv] at hno
    exact absurd hno (by decide)
  · exact ⟨b, by simp [Player.step, hmem, hok], hb⟩

/-- With no timer pending, none is delivered. -/
theorem Player.step_timer_refused {p : Player} {v : Playback} (h : Plays p.blinky v)
    (hdue : v.due = 0) (env : Env) : p.step (.patternTimer env) = .error .refused := by
  apply if_neg
  rw [mem_pending_iff, h.due, hdue]
  exact lt_irrefl 0

/-- Two players at the same playback see the same of the timers to come. -/
theorem run_timers_congr (m : ℕ) : ∀ {p q : Player} {v : Playback},
    Plays p.blinky v → Plays q.blinky v →
    (run Player.step p (List.replicate m (.patternTimer {}))).map
        (fun r => (r.blinky.log, r.blinky.state)) =
      (run Player.step q (List.replicate m (.patternTimer {}))).map
        fun r => (r.blinky.log, r.blinky.state) := by
  induction m with
  | zero =>
    intro p q v hp hq
    simp [Except.map, hp.log, hq.log, hp.state, hq.state]
  | succ m ih =>
    intro p q v hp hq
    rw [List.replicate_succ]
    rcases Nat.eq_zero_or_pos v.due with hdue | hdue
    · -- no timer is left for either
      simp only [run, Player.step_timer_refused hp hdue, Player.step_timer_refused hq hdue]
    · have hgranted : ({} : Env).sendAfter .patternTimer = true := rfl
      obtain ⟨b, hok, hb⟩ := Player.step_timer_of_plays hp hdue hgranted
      obtain ⟨c, hok', hc⟩ := Player.step_timer_of_plays hq hdue hgranted
      rw [run_cons_ok hok, run_cons_ok hok']
      exact ih hb hc

/-- A start that finds no timer pending is isolated. -/
theorem isolated_of_pendingCount_eq_zero {p : Player}
    (h : p.blinky.pendingCount .patternTimer = 0) (pattern : List UInt8) (r : Bool) :
    Isolated p pattern r := by
  have hstart : ∀ q : Player, q.blinky.pendingCount .patternTimer = 0 → ∃ ok b,
      { q with blinky := { q.blinky with log := [] } }.step (.start {} pattern r) =
          .ok { blinky := b, lastStart := some ok } ∧
        Plays b (Playback.ofPattern pattern r 0 []).runStep.2 := by
    intro q hq
    have hcreate : ¬ ({} : Env).handlerCreate < 0 := by decide
    obtain ⟨ok, b, hok⟩ := Blinky.start_isOk (b := { q.blinky with log := [] })
      (fun _ => hcreate) rfl rfl pattern r
    refine ⟨ok, b, by simp [Player.step, hok], ?_⟩
    have hb := (Blinky.start_spec rfl hok).2
    have hq' : ({ q.blinky with log := [] } : Blinky).pendingCount .patternTimer = 0 := hq
    rw [hq'] at hb
    exact hb
  intro m
  obtain ⟨ok, b, hok, hb⟩ := hstart p h
  obtain ⟨ok', c, hok', hc⟩ := hstart {} rfl
  rw [Player.observe, Player.observe, run_cons_ok hok, run_cons_ok hok']
  exact run_timers_congr m hb hc

/-- What is known of a player as long as no start has found a timer pending. -/
def Even (p : Player) : Prop :=
  Counted p.blinky ∧
    (0 < p.blinky.pendingCount .patternTimer → ∃ v, Plays p.blinky v ∧ v.due = 1)

theorem step_even {p q : Player} {i : PlayerInput} (hi : i.Granted) (hp : Even p)
    (hC : NoTimerPending p i) (h : p.step i = .ok q) : Even q := by
  have hsettled : ∀ {b : Blinky} {v : Playback}, Plays b v → v.Settled →
      Counted b ∧ (0 < b.pendingCount .patternTimer → ∃ v, Plays b v ∧ v.due = 1) := by
    intro b v hb hv
    refine ⟨counted_of_settled hb hv, fun hpos => ⟨v, hb, ?_⟩⟩
    rw [hb.due] at hpos
    rcases hv with ⟨hdue, -⟩ | ⟨hdue, -⟩ <;> omega
  cases i with
  | start env pattern r =>
    obtain ⟨ok, b, hstart, hq⟩ := Player.step_start_spec h
    subst hq
    have hb := (Blinky.start_spec hi.1 hstart).2
    exact hsettled hb (Playback.runStep_settled hC)
  | patternTimer env =>
    obtain ⟨hmem, b, hb, hq⟩ := Player.step_patternTimer_spec h
    subst hq
    obtain ⟨v, hv, hdue⟩ := hp.2 (mem_pending_iff.mp hmem)
    have hplays := Blinky.plays_of_handlePatternEvent hv.deliver hb
    exact hsettled hplays.2 (Playback.handlePatternEvent_settled (by simp [hdue]))

/-- A start that finds a timer pending leaves one too many. -/
theorem noTimerPending_of_counted {p q : Player} {i : PlayerInput} (hi : i.Granted)
    (h : p.step i = .ok q) (hq : Counted q.blinky) : NoTimerPending p i := by
  cases i with
  | patternTimer env => trivial
  | start env pattern r =>
    obtain ⟨ok, b, hstart, heq⟩ := Player.step_start_spec h
    subst heq
    have hb := (Blinky.start_spec hi.1 hstart).2
    unfold Counted at hq
    rw [hb.due, hb.state] at hq
    show p.blinky.pendingCount .patternTimer = 0
    by_cases hneg : (Playback.ofPattern pattern r
        (p.blinky.pendingCount .patternTimer) p.blinky.log).read < 0
    · rw [Playback.runStep_of_neg hneg] at hq
      exact hq
    · rw [Playback.runStep_of_nonneg hneg] at hq
      exact Nat.succ_injective hq

/-- A start that finds a timer pending finds a tasklet too, so it comes back. -/
theorem step_start_isOk {p : Player} {env : Env} (henv : env.Granted) (hp : Even p)
    (hpos : 0 < p.blinky.pendingCount .patternTimer) (pattern : List UInt8) (r : Bool) :
    ∃ q, p.step (.start env pattern r) = .ok q := by
  obtain ⟨hmalloc, hsend⟩ := henv
  obtain ⟨v, hv, -⟩ := hp.2 hpos
  have hcreate : p.blinky.tasklet < 0 → ¬ env.handlerCreate < 0 :=
    fun hnone => absurd hnone hv.tasklet
  obtain ⟨ok, b, hok⟩ := Blinky.start_isOk hcreate hmalloc hsend pattern r
  refine ⟨{ blinky := b, lastStart := some ok }, ?_⟩
  simp [Player.step, hok]

/-- The timers are counted as long as no start finds one pending. -/
theorem counted_iff (is : List PlayerInput) (hgranted : ∀ i ∈ is, i.Granted) :
    Always Player.step {} is (fun _ p => Counted p.blinky) ↔
      EachStep Player.step {} is fun _ p i => NoTimerPending p i := by
  have hfresh : Even {} := ⟨rfl, fun h => absurd h (lt_irrefl 0)⟩
  refine always_iff (fun _ p => Even p) hfresh ?_ ?_ ?_ ?_
  · intro pre p i q hi hp hC h
    exact step_even (hgranted i hi) hp hC h
  · intro pre p hp
    exact hp.1
  · intro pre p i q hi _ h hq
    exact noTimerPending_of_counted (hgranted i hi) h hq
  · intro pre p i hi hp hstop
    cases i with
    | patternTimer env => trivial
    | start env pattern r =>
      show p.blinky.pendingCount .patternTimer = 0
      by_contra hne
      have hpos : 0 < p.blinky.pendingCount .patternTimer := Nat.pos_of_ne_zero hne
      obtain ⟨q, hq⟩ := step_start_isOk (hgranted _ hi) hp hpos pattern r
      exact hstop q hq

/-- **Starting a pattern is isolated from earlier ones exactly when no start is made
while a pattern timer is pending.**  `malloc` and the timer requests succeed. -/
theorem counted_and_isolated_iff (is : List PlayerInput) (hgranted : ∀ i ∈ is, i.Granted) :
    (Always Player.step {} is (fun _ p => Counted p.blinky) ∧
        EachStep Player.step {} is fun _ p i =>
          ∀ env pattern r, i = .start env pattern r → Isolated p pattern r) ↔
      EachStep Player.step {} is fun _ p i => NoTimerPending p i := by
  rw [counted_iff is hgranted]
  refine and_iff_left_of_imp fun hC => hC.mono ?_
  intro pre p i _ hp env pattern r hi
  subst hi
  exact isolated_of_pendingCount_eq_zero hp pattern r

/-- The pattern `500` is played to its end, and then the pattern `7`. -/
theorem counted_and_isolated_two_starts :
    Always Player.step {} [.start {} [53, 48, 48] false, .patternTimer {}, .start {} [55] false,
        .patternTimer {}] (fun _ p => Counted p.blinky) ∧
      EachStep Player.step {} [.start {} [53, 48, 48] false, .patternTimer {},
        .start {} [55] false, .patternTimer {}]
        fun _ p i => ∀ env pattern r, i = .start env pattern r → Isolated p pattern r := by
  have hgranted : Env.Granted {} := ⟨rfl, rfl⟩
  refine (counted_and_isolated_iff _ ?_).mpr ?_
  · intro i hi
    simp only [List.mem_cons, List.not_mem_nil, or_false] at hi
    rcases hi with rfl | rfl | rfl | rfl <;> exact hgranted
  · refine eachStep_cons.mpr ⟨rfl, fun p hp => ?_⟩
    refine eachStep_cons.mpr ⟨trivial, fun q hq => ?_⟩
    -- the timer of the first start has been delivered, and asked for no other
    have hnone : run Player.step {} [.start {} [53, 48, 48] false, .patternTimer {}] = .ok q := by
      rw [run_cons_ok hp, run_cons_ok hq, run_nil]
    rw [← Except.ok.inj hnone]
    refine eachStep_cons.mpr ⟨rfl, fun r hr => ?_⟩
    exact eachStep_cons.mpr ⟨trivial, fun _ _ => eachStep_nil⟩

/-- A second start while the first pattern is playing leaves two timers pending. -/
theorem not_counted_two_starts :
    ¬ Always Player.step {}
        [.start {} [53, 48, 48, 58, 53, 48, 48] false, .start {} [53, 48, 48, 58, 53, 48, 48] false]
        fun _ p => Counted p.blinky := by
  intro h
  have hcount : Counted _ := h _ _ List.prefix_rfl rfl
  exact absurd hcount (by decide)

/-! ### Dead patterns -/

/-- The pattern buffer is live and the cursor points into it; that it ends in a NUL
is part of what a block of the heap holds. -/
def Live (b : Blinky) : Prop :=
  ∃ a s n, b.pattern = some a ∧ b.heap.block a = some s ∧ b.currPattern = some ⟨a, n⟩ ∧
    n < s.bytes.length

/-- What is required of a step: a timer finds a live pattern, and neither a timer
after a start that returned false, nor such a start itself, toggles the LED. -/
structure StepsOnLive (p : Player) (i : PlayerInput) : Prop where
  live : ∀ env, i = .patternTimer env → .patternTimer ∈ p.blinky.pending → Live p.blinky
  timer_quiet : ∀ env q, i = .patternTimer env → p.step i = .ok q → p.lastStart = some false →
    q.toggles = p.toggles
  start_quiet : ∀ env pattern r q, i = .start env pattern r → p.step i = .ok q →
    q.lastStart = some false → q.toggles = p.toggles

/-- The last start of a history, and how many timers have been delivered since. -/
structure Playing where
  malloc : Bool
  pattern : List UInt8
  restart : Bool
  timers : ℕ

/-- A history, one input longer. -/
def Playing.next : Option Playing → PlayerInput → Option Playing
  | _, .start env pattern r => some ⟨env.malloc, pattern, r, 0⟩
  | h, .patternTimer _ => h.map fun h => { h with timers := h.timers + 1 }

/-- The last start of a history, if there has been one. -/
def playing (pre : List PlayerInput) : Option Playing := pre.foldl Playing.next none

theorem playing_concat (pre : List PlayerInput) (i : PlayerInput) :
    playing (pre ++ [i]) = Playing.next (playing pre) i := by
  simp [playing]

namespace Playing

/-- The pattern buffer of the start. -/
def text (h : Playing) : CString := .ofBytes h.pattern

/-- The first field of the pattern is rejected, so the start has returned false. -/
def Rejected (h : Playing) : Prop := field h.text 0 < 0

/-- Which field the next timer reads after a rejected start: with `pattern_restart`
each timer goes back to the start of the pattern, and is rejected there. -/
def nextField (h : Playing) : ℕ := if h.restart then 1 else h.timers + 1

/-- The pattern was stored; and if its first field is rejected, then so is the one the
timer reads, unless the event system takes no further timer. -/
def Harmless (h : Playing) (env : Env) : Prop :=
  h.malloc = true ∧
    (h.Rejected → env.sendAfter .patternTimer = true → field h.text h.nextField < 0)

end Playing

/-- A timer that is delivered is harmless. -/
def HarmlessTimer (pre : List PlayerInput) (p : Player) (i : PlayerInput) : Prop :=
  ∀ env, i = .patternTimer env → .patternTimer ∈ p.blinky.pending →
    ∀ h, playing pre = some h → h.Harmless env

/-- What is known of a player after a start, as long as timers have been harmless. -/
structure Follows (p : Player) (h : Playing) : Prop where
  /-- Without a buffer, the last start has returned false and the cursor is NULL. -/
  failed : h.malloc = false → p.lastStart = some false ∧ p.blinky.currPattern = none
  /-- With one, the player plays it, from the field its timers have come to. -/
  stored : h.malloc = true → ∃ v, Plays p.blinky v ∧ v.text = h.text ∧ v.restart = h.restart ∧
    (p.lastStart = some false ↔ h.Rejected) ∧
    (h.Rejected → v.offset = cursor h.text h.nextField)

/-- What is known of a player along a history. -/
def Tracks (pre : List PlayerInput) (p : Player) : Prop :=
  match playing pre with
  | none => p.blinky.pendingCount .patternTimer = 0
  | some h => Follows p h

theorem Plays.live {b : Blinky} {v : Playback} (h : Plays b v) : Live b := by
  obtain ⟨a, hpat, hblock, hcurr⟩ := h.buffer
  exact ⟨a, v.text, v.offset, hpat, hblock, hcurr, v.inside⟩

namespace Playback

theorem runStep_fst (v : Playback) : v.runStep.1 = true ↔ ¬ v.read < 0 := by
  by_cases hneg : v.read < 0
  · simp [runStep_of_neg hneg, hneg]
  · simp [runStep_of_nonneg hneg, hneg]

theorem handlePatternEvent_text (v : Playback) : v.handlePatternEvent.text = v.text := by
  unfold handlePatternEvent
  split
  · rw [runStep_text]
    exact runStep_text v
  · exact runStep_text v

theorem handlePatternEvent_restart (v : Playback) : v.handlePatternEvent.restart = v.restart := by
  unfold handlePatternEvent
  split
  · rw [runStep_restart]
    exact runStep_restart v
  · exact runStep_restart v

/-- A timer that reads a rejected field of a rejected pattern asks for nothing, and
leaves the cursor after that field, or after the first one. -/
theorem handlePatternEvent_rejected {v : Playback} {k : ℕ} (hk : v.offset = cursor v.text k)
    (hneg : field v.text k < 0) (hfirst : field v.text 0 < 0) :
    v.handlePatternEvent.log = v.log ∧
      v.handlePatternEvent.offset = cursor v.text (if v.restart then 1 else k + 1) := by
  have hread : v.read < 0 := by rwa [read_eq_field hk]
  have hstep := runStep_of_neg hread
  unfold handlePatternEvent
  cases hr : v.restart with
  | false =>
    simp only [Bool.and_false, Bool.false_eq_true, if_false, hstep]
    exact ⟨rfl, advance_offset hk⟩
  | true =>
    have hfirst' : v.runStep.2.rewind.read < 0 := by
      rw [read_eq_field (k := 0) rfl]
      simpa [rewind] using hfirst
    have hstep' := runStep_of_neg hfirst'
    have htext : v.runStep.2.rewind.text = v.text := runStep_text v
    simp only [hstep, Bool.not_false, Bool.and_self, if_true] at hstep' htext ⊢
    rw [hstep']
    refine ⟨rfl, ?_⟩
    have hadv := advance_offset (v := ({ v.advance with state := .idle } : Playback).rewind)
      (k := 0) rfl
    rw [htext] at hadv
    exact hadv

end Playback

/-- A start leaves a player that follows it. -/
theorem follows_of_start {p q : Player} {env : Env} {pattern : List UInt8} {r : Bool}
    (h : p.step (.start env pattern r) = .ok q) : Follows q ⟨env.malloc, pattern, r, 0⟩ := by
  obtain ⟨ok, b, hstart, hq⟩ := Player.step_start_spec h
  subst hq
  refine ⟨?_, ?_⟩
  · intro hmalloc
    obtain ⟨rfl, hcurr, -⟩ := Blinky.start_spec_of_malloc_fails hmalloc hstart
    exact ⟨rfl, hcurr⟩
  · intro hmalloc
    obtain ⟨hok, hb⟩ := Blinky.start_spec hmalloc hstart
    refine ⟨_, hb, Playback.runStep_text _, Playback.runStep_restart _, ?_, ?_⟩
    · have hfst := Playback.runStep_fst
        (.ofPattern pattern r (p.blinky.pendingCount .patternTimer) p.blinky.log)
      rw [← hok, Playback.read_eq_field (k := 0) rfl] at hfst
      show some ok = some false ↔ field _ 0 < 0
      rw [Option.some.injEq, ← not_iff_not, Bool.not_eq_false]
      exact hfst
    · intro _
      rw [Playback.runStep_offset, Playback.advance_offset (k := 0) rfl]
      cases r <;> rfl

/-- A harmless timer leaves a player that follows the same start, and toggles the
LED only if that start was accepted. -/
theorem follows_of_timer {p q : Player} {env : Env} {h : Playing} (hp : Follows p h)
    (hC : h.Harmless env) (hq : p.step (.patternTimer env) = .ok q) :
    Follows q { h with timers := h.timers + 1 } ∧
      (p.lastStart = some false → q.toggles = p.toggles) := by
  obtain ⟨hmalloc, hrej⟩ := hC
  obtain ⟨v, hv, htext, hrestart, hlast, hoffset⟩ := hp.stored hmalloc
  obtain ⟨-, b, hb, hq⟩ := Player.step_patternTimer_spec hq
  subst hq
  obtain ⟨hsent, hc⟩ := Blinky.plays_of_handlePatternEvent hv.deliver hb
  -- after a rejected start the field read is rejected too, so nothing is asked for
  have hquiet : h.Rejected →
      ({ v with due := v.due - 1 } : Playback).handlePatternEvent.log = v.log ∧
      ({ v with due := v.due - 1 } : Playback).handlePatternEvent.offset =
        cursor h.text ({ h with timers := h.timers + 1 } : Playing).nextField := by
    intro hr
    have hk : v.offset = cursor v.text h.nextField := by rw [htext]; exact hoffset hr
    have hfield : field v.text h.nextField < 0 := by
      by_contra hpos
      rw [← Playback.read_eq_field hk] at hpos
      have hsend := hsent ((Playback.runStep_fst _).mpr hpos)
      rw [Playback.read_eq_field hk, htext] at hpos
      exact hpos (hrej hr hsend)
    have hfirst : field v.text 0 < 0 := by rw [htext]; exact hr
    obtain ⟨hlog, hoff⟩ := Playback.handlePatternEvent_rejected
      (v := { v with due := v.due - 1 }) hk hfield hfirst
    refine ⟨hlog, hoff.trans ?_⟩
    simp only [htext, hrestart, Playing.nextField]
    cases h.restart <;> rfl
  refine ⟨⟨?_, ?_⟩, ?_⟩
  · intro hno
    rw [hmalloc] at hno
    exact absurd hno (by decide)
  · intro _
    refine ⟨_, hc, ?_, ?_, hlast, fun hr => (hquiet hr).2⟩
    · rw [Playback.handlePatternEvent_text]
      exact htext
    · rw [Playback.handlePatternEvent_restart]
      exact hrestart
  · intro hfalse
    have hlog := (hquiet (hlast.mp hfalse)).1
    simp only [Player.toggles, hc.log, hlog, hv.log]

/-- A start that returns false has not toggled the LED. -/
theorem toggles_of_start_false {p q : Player} {env : Env} {pattern : List UInt8} {r : Bool}
    (h : p.step (.start env pattern r) = .ok q) (hq : q.lastStart = some false) :
    q.toggles = p.toggles := by
  obtain ⟨ok, b, hstart, heq⟩ := Player.step_start_spec h
  subst heq
  rw [Option.some.injEq] at hq
  subst hq
  cases hmalloc : env.malloc with
  | false =>
    obtain ⟨-, -, hlog⟩ := Blinky.start_spec_of_malloc_fails hmalloc hstart
    simp only [Player.toggles, hlog]
  | true =>
    obtain ⟨hok, hb⟩ := Blinky.start_spec hmalloc hstart
    have hneg : (Playback.ofPattern pattern r
        (p.blinky.pendingCount .patternTimer) p.blinky.log).read < 0 := by
      by_contra hpos
      rw [(Playback.runStep_fst _).mpr hpos] at hok
      exact absurd hok (by decide)
    rw [Playback.runStep_of_neg hneg] at hb
    simp only [Player.toggles, hb.log]
    rfl

/-- A timer that is pending has been asked for by some start, which the player follows. -/
theorem Tracks.exists_follows {pre : List PlayerInput} {p : Player} (hp : Tracks pre p)
    (hmem : .patternTimer ∈ p.blinky.pending) : ∃ g, playing pre = some g ∧ Follows p g := by
  unfold Tracks at hp
  cases hplay : playing pre with
  | none =>
    rw [hplay] at hp
    have hpos : 0 < p.blinky.pendingCount .patternTimer := mem_pending_iff.mp hmem
    exact absurd hp (Nat.pos_iff_ne_zero.mp hpos)
  | some g =>
    rw [hplay] at hp
    exact ⟨g, rfl, hp⟩

/-- Starts and harmless timers leave what is known of a player true. -/
theorem step_tracks {pre : List PlayerInput} {p q : Player} {i : PlayerInput}
    (hp : Tracks pre p) (hC : HarmlessTimer pre p i) (h : p.step i = .ok q) :
    Tracks (pre ++ [i]) q := by
  cases i with
  | start env pattern r =>
    rw [Tracks, playing_concat]
    exact follows_of_start h
  | patternTimer env =>
    have hmem := (Player.step_patternTimer_spec h).1
    obtain ⟨g, hplay, hg⟩ := hp.exists_follows hmem
    have hharmless := hC env rfl hmem g hplay
    rw [Tracks, playing_concat, hplay]
    exact (follows_of_timer hg hharmless h).1

/-- A harmless timer steps on a live pattern. -/
theorem stepsOnLive_of_harmlessTimer {pre : List PlayerInput} {p : Player} {i : PlayerInput}
    (hp : Tracks pre p) (hC : HarmlessTimer pre p i) : StepsOnLive p i := by
  refine ⟨?_, ?_, ?_⟩
  · intro env hi hmem
    obtain ⟨g, hplay, hg⟩ := hp.exists_follows hmem
    have hharmless := hC env hi hmem g hplay
    obtain ⟨v, hv, -⟩ := hg.stored hharmless.1
    exact hv.live
  · intro env q hi h hfalse
    subst hi
    have hmem := (Player.step_patternTimer_spec h).1
    obtain ⟨g, hplay, hg⟩ := hp.exists_follows hmem
    have hharmless := hC env rfl hmem g hplay
    exact (follows_of_timer hg hharmless h).2 hfalse
  · intro env pattern r q hi h hfalse
    subst hi
    exact toggles_of_start_false h hfalse

/-- A timer that is not harmless finds no pattern, or plays on in a rejected one. -/
theorem harmlessTimer_of_stepsOnLive {pre : List PlayerInput} {p : Player} {i : PlayerInput}
    (hp : Tracks pre p) (hP : StepsOnLive p i) : HarmlessTimer pre p i := by
  intro env hi hmem g hplay
  subst hi
  have hg : Follows p g := by
    rw [Tracks, hplay] at hp
    exact hp
  obtain ⟨a, s, n, -, -, hcurr, -⟩ := hP.live env rfl hmem
  have hmalloc : g.malloc = true := by
    by_contra hno
    rw [(hg.failed (by simpa using hno)).2] at hcurr
    simp at hcurr
  refine ⟨hmalloc, ?_⟩
  intro hr hsend
  by_contra hpos
  obtain ⟨v, hv, htext, -, hlast, hoffset⟩ := hg.stored hmalloc
  have hk : v.offset = cursor v.text g.nextField := by rw [htext]; exact hoffset hr
  have hread : ¬ v.read < 0 := by rw [Playback.read_eq_field hk, htext]; exact hpos
  rcases Blinky.handlePatternEvent_spec hv.deliver env with ⟨hno, -⟩ | ⟨-, c, hok, hc⟩
  · rw [hsend] at hno
    exact absurd hno (by decide)
  · have hq : p.step (.patternTimer env) = .ok { p with blinky := c } := by
      simp [Player.step, hmem, hok]
    have htoggles := hP.timer_quiet env _ rfl hq (hlast.mpr hr)
    have hstep := Playback.runStep_of_nonneg (v := { v with due := v.due - 1 }) hread
    have hlog : c.log = .toggleLed :: .sendAfter .patternTimer v.read :: p.blinky.log := by
      rw [hc.log, hv.log, Playback.handlePatternEvent, hstep]
      rfl
    simp [Player.toggles, hlog] at htoggles

/-- **No timer finds a dead pattern, and none toggles the LED after a start that
returned false, exactly when every timer delivered is harmless.** -/
theorem stepsOnLive_iff (is : List PlayerInput) :
    (EachStep Player.step {} is fun _ p i => StepsOnLive p i) ↔
      EachStep Player.step {} is fun pre p i => HarmlessTimer pre p i := by
  have hnil : Tracks [] {} := rfl
  refine eachStep_iff Tracks hnil ?_ ?_ ?_
  · intro pre p i q _ hp hC h
    exact step_tracks hp hC h
  · intro pre p i _ hp hC
    exact stepsOnLive_of_harmlessTimer hp hC
  · intro pre p i _ hp hP
    exact harmlessTimer_of_stepsOnLive hp hP

/-- A timer that outlives its pattern reads through NULL when the next start runs
out of memory. -/
theorem not_stepsOnLive_malloc_fails :
    ¬ EachStep Player.step {}
        [.start {} [53, 48, 48] false, .start { malloc := false } [53, 48, 48] false,
          .patternTimer {}]
        fun _ p i => StepsOnLive p i := by
  intro h
  have hlive := (h [.start {} [53, 48, 48] false, .start { malloc := false } [53, 48, 48] false]
    (.patternTimer {}) _ List.prefix_rfl rfl).live {} rfl (by decide)
  obtain ⟨a, s, n, hpat, -⟩ := hlive
  have hnone : none = some a := hpat
  cases hnone

end PelionClientLite
