import PelionClientLite.Blinky

/-!
# The pattern player without its memory

What a player does with a pattern depends on the text, on where the cursor stands
in it, and on nothing else of the heap.  `Playback` keeps just that, with the
cursor inside the text by construction, and the functions of `Blinky` are carried
over to it.

## Main definitions

* `Playback` — a text, a cursor inside it, and what has been asked for.
* `Plays b v` — the player `b` has a live buffer and cursor, and is at `v`.
* `cursor`, `field` — the places and values of successive calls of `get_next_int`.

## Main results

* `nextInt_moved_lt` — the cursor stays inside the buffer.
* `runStep_spec`, `handlePatternEvent_spec`, `start_spec` — **the player refines
  its playback**: it does the same, or an assertion fails because the event
  system took no timer.
-/

namespace PelionClientLite

open CLib

/-! ### Reading one integer -/

theorem headD_drop_eq {s : List UInt8} {n : ℕ} (h : n < s.length) :
    (s.drop n).headD 0 = s[n] := by
  rw [List.headD_eq_head?_getD, List.head?_drop, List.getElem?_eq_getElem h]
  rfl

/-- **The cursor stays inside the buffer**, also where it skips a separator. -/
theorem nextInt_moved_lt {s : List UInt8} (hs : s.getLast? = some 0) :
    (nextInt s).2 < s.length := by
  have hlt := strtol_consumed_lt longMin longMax hs
  unfold nextInt
  dsimp only
  split
  · split
    · next hsep =>
      -- the separator is not the final NUL, so there is a byte after it
      rw [headD_drop_eq hlt] at hsep
      by_contra hge
      have hlast : (strtol longMin longMax s).2 = s.length - 1 := by omega
      rw [List.getLast?_eq_getElem?, ← hlast, List.getElem?_eq_getElem hlt, hsep] at hs
      exact absurd hs (by decide)
    · split <;> exact hlt
  · exact hlt

/-- Where the cursor stands after `k` calls of `get_next_int` from the start. -/
def cursor (s : CString) : ℕ → ℕ
  | 0 => 0
  | k + 1 => cursor s k + (nextInt (s.bytes.drop (cursor s k))).2

/-- What the call after those returns. -/
def field (s : CString) (k : ℕ) : ℤ := (nextInt (s.bytes.drop (cursor s k))).1

/-! ### The playback -/

/-- A text being played. -/
structure Playback where
  /-- The contents of the pattern buffer. -/
  text : CString
  /-- Where the cursor stands. -/
  offset : ℕ
  /-- It stands inside the buffer. -/
  inside : offset < text.bytes.length
  state : BlinkyState
  restart : Bool
  /-- How many pattern timers are pending. -/
  due : ℕ
  /-- The calls made, newest first. -/
  log : List BlinkyCall

namespace Playback

/-- The integer under the cursor. -/
def read (v : Playback) : ℤ := (nextInt (v.text.bytes.drop v.offset)).1

/-- The playback with the cursor moved past it. -/
def advance (v : Playback) : Playback :=
  { v with
    offset := v.offset + (nextInt (v.text.bytes.drop v.offset)).2
    inside := by
      have h := nextInt_moved_lt (v.text.getLast?_drop v.inside)
      rw [List.length_drop] at h
      omega }

/-- The playback with the cursor at the start. -/
def rewind (v : Playback) : Playback := { v with offset := 0, inside := v.text.length_pos }

/-- One step: a delay is requested and the LED toggled, or the playback is idle. -/
def runStep (v : Playback) : Bool × Playback :=
  if v.read < 0 then (false, { v.advance with state := .idle })
  else (true, { v.advance with
    state := .started, due := v.due + 1,
    log := .toggleLed :: .sendAfter .patternTimer v.read :: v.log })

/-- What a timer does that has been delivered. -/
def handlePatternEvent (v : Playback) : Playback :=
  if !v.runStep.1 && v.restart then v.runStep.2.rewind.runStep.2 else v.runStep.2

/-- A text at its start. -/
def ofPattern (pattern : List UInt8) (restart : Bool) (due : ℕ) (log : List BlinkyCall) :
    Playback where
  text := .ofBytes pattern
  offset := 0
  inside := CString.length_pos _
  state := .idle
  restart := restart
  due := due
  log := log

theorem runStep_of_neg {v : Playback} (h : v.read < 0) :
    v.runStep = (false, { v.advance with state := .idle }) := if_pos h

theorem runStep_of_nonneg {v : Playback} (h : ¬ v.read < 0) :
    v.runStep = (true, { v.advance with
      state := .started, due := v.due + 1,
      log := .toggleLed :: .sendAfter .patternTimer v.read :: v.log }) := if_neg h

@[simp] theorem runStep_text (v : Playback) : v.runStep.2.text = v.text := by
  unfold runStep
  split <;> rfl

@[simp] theorem runStep_restart (v : Playback) : v.runStep.2.restart = v.restart := by
  unfold runStep
  split <;> rfl

@[simp] theorem runStep_offset (v : Playback) : v.runStep.2.offset = v.advance.offset := by
  unfold runStep
  split <;> rfl

/-- At the `k`-th cursor position, the integer read is the `k`-th field. -/
theorem read_eq_field {v : Playback} {k : ℕ} (h : v.offset = cursor v.text k) :
    v.read = field v.text k := by
  rw [read, field, h]

/-- The next position is the one after. -/
theorem advance_offset {v : Playback} {k : ℕ} (h : v.offset = cursor v.text k) :
    v.advance.offset = cursor v.text (k + 1) := by
  rw [cursor, ← h]
  rfl

end Playback

/-! ### The player refines its playback -/

/-- The player `b` has a live pattern buffer and a cursor inside it, and is at `v`. -/
structure Plays (b : Blinky) (v : Playback) : Prop where
  buffer : ∃ a, b.pattern = some a ∧ b.heap.block a = some v.text ∧
    b.currPattern = some ⟨a, v.offset⟩
  state : b.state = v.state
  restart : b.restart = v.restart
  due : b.pendingCount .patternTimer = v.due
  log : b.log = v.log
  tasklet : ¬ b.tasklet < 0

namespace Blinky

theorem getNextInt_spec {b : Blinky} {v : Playback} (h : Plays b v) :
    ∃ b', b.getNextInt = .ok (v.read, b') ∧ Plays b' v.advance := by
  obtain ⟨a, hpat, hblock, hcurr⟩ := h.buffer
  refine ⟨{ b with currPattern := some ⟨a, v.advance.offset⟩ }, ?_, ?_⟩
  · simp only [getNextInt, hcurr, hblock, v.inside, if_true]
    rfl
  · exact ⟨⟨a, hpat, hblock, rfl⟩, h.state, h.restart, h.due, h.log, h.tasklet⟩

/-- `run_step` does what the playback does, or an assertion fails because there was
a delay to request and the event system did not take it. -/
theorem runStep_spec {b : Blinky} {v : Playback} (h : Plays b v) (env : Env) :
    (v.runStep.1 = true ∧ env.sendAfter .patternTimer = false ∧
      b.runStep env = .error .assertionFailed) ∨
    ((v.runStep.1 = true → env.sendAfter .patternTimer = true) ∧
      ∃ b', b.runStep env = .ok (v.runStep.1, b') ∧ Plays b' v.runStep.2) := by
  obtain ⟨b', hget, h'⟩ := getNextInt_spec h
  by_cases hneg : v.read < 0
  · -- no delay here: the player is idle
    right
    rw [Playback.runStep_of_neg hneg]
    refine ⟨by simp, { b' with state := .idle }, ?_, ?_⟩
    · simp [runStep, hget, hneg]
    · exact ⟨h'.buffer, rfl, h'.restart, h'.due, h'.log, h'.tasklet⟩
  · rw [Playback.runStep_of_nonneg hneg]
    cases hsend : env.sendAfter .patternTimer with
    | false =>
      left
      refine ⟨rfl, rfl, ?_⟩
      simp [runStep, hget, hneg, requestTimedEvent, h'.tasklet, hsend]
    | true =>
      right
      refine ⟨fun _ => rfl, { b' with
        pending := .patternTimer :: b'.pending, state := .started,
        log := .toggleLed :: .sendAfter .patternTimer v.read :: b'.log }, ?_, ?_⟩
      · simp [runStep, hget, hneg, requestTimedEvent, h'.tasklet, hsend, toggleLed]
      · refine ⟨h'.buffer, rfl, h'.restart, ?_, ?_, h'.tasklet⟩
        · have hdue := h'.due
          simp only [pendingCount, List.count_cons_self] at hdue ⊢
          rw [hdue]
          rfl
        · rw [h'.log]
          rfl

theorem rewind_spec {b : Blinky} {v : Playback} (h : Plays b v) :
    Plays { b with currPattern := b.pattern.map (⟨·, 0⟩) } v.rewind := by
  obtain ⟨a, hpat, hblock, -⟩ := h.buffer
  exact ⟨⟨a, hpat, hblock, by simp [hpat, Playback.rewind]⟩, h.state, h.restart, h.due, h.log,
    h.tasklet⟩

/-- `handle_pattern_event` does what the playback does, or an assertion fails
because the event system took no timer. -/
theorem handlePatternEvent_spec {b : Blinky} {v : Playback} (h : Plays b v) (env : Env) :
    (env.sendAfter .patternTimer = false ∧ b.handlePatternEvent env = .error .assertionFailed) ∨
    ((v.runStep.1 = true → env.sendAfter .patternTimer = true) ∧
      ∃ b', b.handlePatternEvent env = .ok b' ∧ Plays b' v.handlePatternEvent) := by
  rcases runStep_spec h env with ⟨-, hsend, herr⟩ | ⟨hsent, b₁, hok, h₁⟩
  · exact Or.inl ⟨hsend, by simp [handlePatternEvent, herr]⟩
  · have hcond : (!v.runStep.1 && b₁.restart) = (!v.runStep.1 && v.restart) := by
      rw [h₁.restart, Playback.runStep_restart]
    by_cases hrewind : (!v.runStep.1 && v.restart) = true
    · -- the step failed and the pattern is to be played again from its start
      rcases runStep_spec (rewind_spec h₁) env with ⟨-, hsend, herr⟩ | ⟨-, b₂, hok₂, h₂⟩
      · refine Or.inl ⟨hsend, ?_⟩
        simp only [handlePatternEvent, hok, Machine.ok_bind, hcond, hrewind, if_true, herr,
          Machine.error_bind]
      · refine Or.inr ⟨hsent, b₂, ?_, ?_⟩
        · simp only [handlePatternEvent, hok, Machine.ok_bind, hcond, hrewind, if_true, hok₂,
            Machine.pure_eq_ok]
        · rw [Playback.handlePatternEvent, if_pos hrewind]
          exact h₂
    · refine Or.inr ⟨hsent, b₁, ?_, ?_⟩
      · simp only [handlePatternEvent, hok, Machine.ok_bind, hcond, if_neg hrewind,
          Machine.pure_eq_ok]
      · rw [Playback.handlePatternEvent, if_neg hrewind]
        exact h₁

/-- A `handle_pattern_event` that comes back has done what the playback does. -/
theorem plays_of_handlePatternEvent {b b' : Blinky} {v : Playback} {env : Env} (h : Plays b v)
    (hb : b.handlePatternEvent env = .ok b') :
    (v.runStep.1 = true → env.sendAfter .patternTimer = true) ∧ Plays b' v.handlePatternEvent := by
  rcases handlePatternEvent_spec h env with ⟨-, herr⟩ | ⟨hsent, c, hok, hc⟩
  · rw [herr] at hb
    simp at hb
  · rw [hok, Except.ok.injEq] at hb
    subst hb
    exact ⟨hsent, hc⟩

/-- Creating the tasklet touches neither the pattern nor its timers. -/
theorem createTasklet_ok {b b' : Blinky} {env : Env} (h : b.createTasklet env = .ok b') :
    ¬ b'.tasklet < 0 ∧ b'.pendingCount .patternTimer = b.pendingCount .patternTimer ∧
      b'.log = b.log ∧ b'.heap = b.heap ∧ b'.pattern = b.pattern := by
  unfold createTasklet at h
  split at h
  · split at h
    · simp at h
    · next hid =>
      rw [Except.ok.injEq] at h
      subst h
      exact ⟨hid, by simp [pendingCount], rfl, rfl, rfl⟩
  · next hid =>
    rw [Except.ok.injEq] at h
    subst h
    exact ⟨hid, rfl, rfl, rfl, rfl⟩

/-- Creating the tasklet fails only where there is none yet. -/
theorem createTasklet_isOk {b : Blinky} {env : Env}
    (h : b.tasklet < 0 → ¬ env.handlerCreate < 0) : ∃ b', b.createTasklet env = .ok b' := by
  unfold createTasklet
  split
  · next hnone =>
    rw [if_neg (h hnone)]
    exact ⟨_, rfl⟩
  · exact ⟨_, rfl⟩

/-- Once `malloc` has succeeded, a start is a step from the beginning of the new
pattern; the timers of earlier patterns stay pending. -/
theorem start_eq {b b₁ : Blinky} {env : Env} (hcreate : b.createTasklet env = .ok b₁)
    (hmalloc : env.malloc = true) (pattern : List UInt8) (r : Bool) :
    ∃ b₂, b.start env pattern r = b₂.runStep env ∧
      Plays b₂ (.ofPattern pattern r (b.pendingCount .patternTimer) b.log) := by
  obtain ⟨htasklet, hcount, hlog, -, -⟩ := createTasklet_ok hcreate
  let b₁' : Blinky := { b₁ with restart := r }.stop
  refine ⟨{ b₁' with
    heap := b₁'.heap.malloc (.ofBytes pattern), pattern := some b₁'.heap.next,
    currPattern := some ⟨b₁'.heap.next, 0⟩ }, ?_,
    ⟨⟨_, rfl, Heap.block_malloc_self _ _, rfl⟩, rfl, rfl, hcount, hlog, htasklet⟩⟩
  simp only [start, hcreate, Machine.ok_bind, hmalloc, if_true]
  rfl

/-- A start whose `malloc` succeeds plays the pattern from its beginning. -/
theorem start_spec {b b' : Blinky} {env : Env} {pattern : List UInt8} {r ok : Bool}
    (hmalloc : env.malloc = true) (h : b.start env pattern r = .ok (ok, b')) :
    ok = (Playback.ofPattern pattern r (b.pendingCount .patternTimer) b.log).runStep.1 ∧
      Plays b' (Playback.ofPattern pattern r (b.pendingCount .patternTimer) b.log).runStep.2 := by
  have h' := h
  rw [start, Machine.bind_eq_ok] at h'
  obtain ⟨b₁, hcreate, -⟩ := h'
  obtain ⟨b₂, heq, hplays⟩ := start_eq hcreate hmalloc pattern r
  rw [heq] at h
  rcases runStep_spec hplays env with ⟨-, -, herr⟩ | ⟨-, b₃, hok, h₃⟩
  · rw [herr] at h
    simp at h
  · rw [hok, Except.ok.injEq, Prod.mk.injEq] at h
    obtain ⟨rfl, rfl⟩ := h
    exact ⟨rfl, h₃⟩

/-- A start whose `malloc` fails leaves the player without a pattern. -/
theorem start_spec_of_malloc_fails {b b' : Blinky} {env : Env} {pattern : List UInt8} {r ok : Bool}
    (hmalloc : env.malloc = false) (h : b.start env pattern r = .ok (ok, b')) :
    ok = false ∧ b'.currPattern = none ∧ b'.log = b.log := by
  rw [start, Machine.bind_eq_ok] at h
  obtain ⟨b₁, hcreate, h⟩ := h
  obtain ⟨-, -, hlog, -, -⟩ := createTasklet_ok hcreate
  simp only [hmalloc, Bool.false_eq_true, if_false, Machine.pure_eq_ok, Except.ok.injEq,
    Prod.mk.injEq] at h
  obtain ⟨rfl, rfl⟩ := h
  exact ⟨rfl, rfl, hlog⟩

/-- It is idle, too. -/
theorem start_idle_of_malloc_fails {b b' : Blinky} {env : Env} {pattern : List UInt8}
    {r ok : Bool} (hmalloc : env.malloc = false) (h : b.start env pattern r = .ok (ok, b')) :
    b'.state = .idle := by
  rw [start, Machine.bind_eq_ok] at h
  obtain ⟨b₁, -, h⟩ := h
  simp only [hmalloc, Bool.false_eq_true, if_false, Machine.pure_eq_ok, Except.ok.injEq,
    Prod.mk.injEq] at h
  rw [← h.2]
  rfl

/-- With everything granted, a start comes back. -/
theorem start_isOk {b : Blinky} {env : Env} (hcreate : b.tasklet < 0 → ¬ env.handlerCreate < 0)
    (hmalloc : env.malloc = true) (hsend : env.sendAfter .patternTimer = true)
    (pattern : List UInt8) (r : Bool) : ∃ ok b', b.start env pattern r = .ok (ok, b') := by
  obtain ⟨b₁, hb₁⟩ := createTasklet_isOk hcreate
  obtain ⟨b₂, heq, hplays⟩ := start_eq hb₁ hmalloc pattern r
  rcases runStep_spec hplays env with ⟨-, hno, -⟩ | ⟨-, b₃, hok, -⟩
  · rw [hsend] at hno
    exact absurd hno (by decide)
  · exact ⟨_, b₃, heq.trans hok⟩

end Blinky

end PelionClientLite
