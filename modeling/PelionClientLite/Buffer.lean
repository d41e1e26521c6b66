import PelionClientLite.DevicePlayer

/-!
# The pattern buffer

`start` frees the buffer of the last pattern, allocates one for the next and copies the
pattern into it; nothing else touches the heap.  So the heap never holds more than the
pattern that was started last, whatever happens to the device, and the cursor never
leaves it.

## Main definitions

* `lastPost` — what the last POST of a history has found.
* `HoldsPattern` — the player holds the pattern of that POST, and nothing else.

## Main results

* `Blinky.start_owns`, `Blinky.handlePatternEvent_owns` — what becomes of the heap.
* `Device.step_holdsPlayback` — every step keeps what the player holds.
* `device_holds_pattern` — **the heap holds the pattern of the last POST**, exactly, or
  nothing if there was no memory for it.
-/

namespace PelionClientLite

open CLib Machine

/-! ### The heap -/

namespace Blinky

variable {b b' : Blinky} {env : Env}

/-- The heap holds the block the pattern is in, if there is one, and no other. -/
def Owns (b : Blinky) : Prop := ∀ a, (b.heap.block a).isSome = true ↔ b.pattern = some a

theorem Owns.congr (h : b.Owns) (hheap : b'.heap = b.heap) (hpattern : b'.pattern = b.pattern) :
    b'.Owns := by
  intro a
  rw [hheap, hpattern]
  exact h a

/-- What a step of the pattern touches; a timer is asked for only with a tasklet. -/
theorem runStep_keeps {success : Bool} (h : b.runStep env = .ok (success, b')) :
    ∃ currPattern state pending log, b' = { b with currPattern, state, pending, log } ∧
      (pending = b.pending ∨ ¬ b.tasklet < 0) := by
  obtain ⟨⟨delay, b₁⟩, hget, h⟩ := bind_eq_ok.mp h
  have hget' : ∃ currPattern, b₁ = { b with currPattern } := by
    unfold getNextInt at hget
    split at hget
    · simp at hget
    · split at hget
      · simp at hget
      · split at hget
        · simp only [Except.ok.injEq, Prod.mk.injEq] at hget
          exact ⟨_, hget.2.symm⟩
        · simp at hget
  -- only a delay that is not negative asks for a timer
  obtain ⟨currPattern, rfl⟩ := hget'
  dsimp only at h
  split at h
  · rw [pure_eq_ok, Except.ok.injEq, Prod.mk.injEq] at h
    exact ⟨currPattern, .idle, b.pending, b.log, h.2.symm, Or.inl rfl⟩
  · obtain ⟨⟨sent, b₂⟩, hsend, h⟩ := bind_eq_ok.mp h
    unfold requestTimedEvent at hsend
    split at hsend
    · simp at hsend
    · next htasklet =>
      dsimp only at h
      split at h
      · next hsent =>
        subst hsent
        rw [pure_eq_ok, Except.ok.injEq, Prod.mk.injEq] at h
        split at hsend
        · rw [Except.ok.injEq, Prod.mk.injEq] at hsend
          refine ⟨currPattern, .started, .patternTimer :: b.pending,
            .toggleLed :: .sendAfter .patternTimer delay :: b.log, ?_, Or.inr htasklet⟩
          rw [← h.2, ← hsend.2]
          rfl
        · simp at hsend
      · simp at h

/-- What a pattern timer touches. -/
theorem handlePatternEvent_keeps (h : b.handlePatternEvent env = .ok b') :
    ∃ currPattern state pending log, b' = { b with currPattern, state, pending, log } ∧
      (pending = b.pending ∨ ¬ b.tasklet < 0) := by
  obtain ⟨⟨success, b₁⟩, hstep, h⟩ := bind_eq_ok.mp h
  obtain ⟨_, _, pending, _, rfl, hpending⟩ := runStep_keeps hstep
  dsimp only at h
  split at h
  · obtain ⟨⟨_, b₂⟩, hstep₂, h⟩ := bind_eq_ok.mp h
    obtain ⟨_, _, pending₂, _, rfl, hpending₂⟩ := runStep_keeps hstep₂
    rw [pure_eq_ok, Except.ok.injEq] at h
    refine ⟨_, _, _, _, h.symm, ?_⟩
    rcases hpending₂ with hsame | htasklet
    · exact hpending.imp_left hsame.trans
    · exact Or.inr htasklet
  · rw [pure_eq_ok, Except.ok.injEq] at h
    exact ⟨_, _, _, _, h.symm, hpending⟩

/-- A pattern timer leaves the heap as it is. -/
theorem handlePatternEvent_owns (hb : b.Owns) (h : b.handlePatternEvent env = .ok b') :
    b'.Owns := by
  obtain ⟨_, _, _, _, rfl, -⟩ := handlePatternEvent_keeps h
  exact hb

/-- Stopping leaves an empty heap. -/
theorem Owns.stop (hb : b.Owns) (a : ℕ) : b.stop.heap.block a = none := by
  rw [← Option.not_isSome_iff_eq_none]
  unfold Blinky.stop Heap.free
  cases hpattern : b.pattern with
  | none =>
    rw [hb a, hpattern]
    simp
  | some c =>
    dsimp only
    by_cases hac : a = c
    · simp [hac]
    · rw [Function.update_of_ne hac, hb a, hpattern, Option.some.injEq]
      exact Ne.symm hac

/-- A start takes back the last buffer, and leaves its own or none. -/
theorem start_owns (hb : b.Owns) {pattern : List UInt8} {r success : Bool}
    (h : b.start env pattern r = .ok (success, b')) :
    b'.Owns ∧ (env.malloc = false → b'.pattern = none) := by
  obtain ⟨b₁, hcreate, h⟩ := bind_eq_ok.mp h
  -- `stop` frees the old buffer before `malloc` is asked for the new one
  obtain ⟨-, -, -, hheap, hpattern⟩ := createTasklet_ok hcreate
  have hb₁ : ({ b₁ with restart := r } : Blinky).Owns := hb.congr hheap hpattern
  dsimp only at h
  split at h
  · next hmalloc =>
    obtain ⟨_, _, _, _, rfl, -⟩ := runStep_keeps h
    refine ⟨?_, fun hno => absurd (hmalloc.symm.trans hno) (by decide)⟩
    intro a
    dsimp only [Heap.malloc]
    rw [Option.some.injEq]
    -- after `stop` the heap is empty, so that the new block is alone
    by_cases ha : a = ({ b₁ with restart := r } : Blinky).stop.heap.next
    · simp [ha]
    · rw [Function.update_of_ne ha, hb₁.stop a]
      exact iff_of_false (by simp) (Ne.symm ha)
  · rw [pure_eq_ok, Except.ok.injEq, Prod.mk.injEq] at h
    rw [← h.2]
    refine ⟨?_, fun _ => rfl⟩
    intro a
    rw [hb₁.stop a]
    exact iff_of_false (by simp) (by simp [Blinky.stop])

end Blinky

/-! ### The last POST -/

/-- What a POST has found. -/
structure Posted where
  /-- `malloc` has succeeded for it. -/
  malloc : Bool
  /-- The pattern that was stored. -/
  pattern : List UInt8

/-- A POST, and whether `malloc` succeeds for it. -/
def Input.post : Input → Option Bool
  | .run (.blinkCallback env .execute _ _) => some env.malloc
  | _ => none

/-- What the last POST has found, of a history that is given newest first. -/
def lastPostRev : List Input → Option Posted
  | [] => none
  | i :: is =>
      match i.post with
      | some malloc => (is.findSome? Input.pattern).map (Posted.mk malloc)
      | none => lastPostRev is

/-- What the last POST of a history has found. -/
def lastPost (is : List Input) : Option Posted := lastPostRev is.reverse

theorem lastPost_concat (is : List Input) (i : Input) :
    lastPost (is ++ [i]) =
      match i.post with
      | some malloc => (lastPattern is).map (Posted.mk malloc)
      | none => lastPost is := by
  rw [lastPost, List.reverse_append, List.reverse_singleton, List.singleton_append, lastPostRev]
  rfl

/-- The text a POST has to play: the pattern up to its NUL. -/
def Posted.text (p : Posted) : List UInt8 := p.pattern.takeWhile (· != 0)

/-! ### What is held -/

/-- The player has what the last POST has left it: a buffer with its text, or none if there
was no memory for it.  Before the first POST no pattern timer is pending. -/
def HoldsPlayback (last : Option Posted) (b : Blinky) : Prop :=
  match last with
  | none => b.pattern = none ∧ b.currPattern = none ∧ b.pendingCount .patternTimer = 0
  | some p =>
      if p.malloc then ∃ v, Plays b v ∧ v.text = .ofBytes p.text
      else b.pattern = none ∧ b.currPattern = none

namespace Player

variable {p q : Player} {env : Env}

/-- A start leaves the player with its pattern, or without one. -/
theorem holdsPlayback_start (posted : Posted) (hp : p.blinky.Owns) {r : Bool}
    (hmalloc : env.malloc = posted.malloc) (h : p.step (.start env posted.text r) = .ok q) :
    q.blinky.Owns ∧ HoldsPlayback (some posted) q.blinky := by
  obtain ⟨success, b, hstart, rfl⟩ := step_start_spec h
  obtain ⟨howns, hfails⟩ := Blinky.start_owns hp hstart
  refine ⟨howns, ?_⟩
  rw [hmalloc] at hfails
  dsimp only [HoldsPlayback]
  cases hposted : posted.malloc with
  | true =>
    rw [if_pos rfl]
    rw [hposted] at hmalloc
    exact ⟨_, (Blinky.start_spec hmalloc hstart).2, Playback.runStep_text _⟩
  | false =>
    rw [if_neg Bool.false_ne_true]
    rw [hposted] at hmalloc
    exact ⟨hfails hposted, (Blinky.start_spec_of_malloc_fails hmalloc hstart).2.1⟩

/-- A timer that is delivered has found the pattern, and leaves it. -/
theorem holdsPlayback_patternTimer (hp : p.blinky.Owns) {last : Option Posted}
    (hheld : HoldsPlayback last p.blinky) (h : p.step (.patternTimer env) = .ok q) :
    q.blinky.Owns ∧ HoldsPlayback last q.blinky := by
  obtain ⟨hmem, b, hb, rfl⟩ := step_patternTimer_spec h
  have hdelivered : Blinky.Owns
      { p.blinky with pending := p.blinky.pending.erase .patternTimer } := hp.congr rfl rfl
  refine ⟨Blinky.handlePatternEvent_owns hdelivered hb, ?_⟩
  -- without a cursor the timer would not have come back
  have hnull : p.blinky.currPattern ≠ none := by
    intro hcursor
    simp [Blinky.handlePatternEvent, Blinky.runStep, Blinky.getNextInt, hcursor] at hb
  cases last with
  | none => exact absurd hheld.2.1 hnull
  | some posted =>
    dsimp only [HoldsPlayback] at hheld ⊢
    split at hheld
    · next hmalloc =>
      obtain ⟨v, hv, htext⟩ := hheld
      rw [if_pos hmalloc]
      refine ⟨_, (Blinky.plays_of_handlePatternEvent hv.deliver hb).2, ?_⟩
      rw [Playback.handlePatternEvent_text]
      exact htext
    · exact absurd hheld.2 hnull

end Player

namespace Device

variable {d t : Device} {i : Input} {pre : List Input}

/-- A step that is taken and is not seen by the player is not a POST. -/
theorem post_of_playerInput_eq_none (hstep : d.step i = .ok t) (hnone : d.playerInput i = none) :
    i.post = none := by
  unfold Input.post
  split
  · obtain ⟨patternStr, _, hpattern, -⟩ := App.handle_post (handle_of_step hstep)
    simp [playerInput, App.playerInput, hpattern] at hnone
  · rfl

/-- **Every step keeps what the player holds.** -/
theorem step_holdsPlayback {defaultInstance : Option NetworkInterface}
    (hd : run step (boot defaultInstance) pre = .ok d) (hstep : d.step i = .ok t)
    (howns : d.app.blinky.patternOnly.Owns)
    (hheld : HoldsPlayback (lastPost pre) d.app.blinky.patternOnly) :
    t.app.blinky.patternOnly.Owns ∧
      HoldsPlayback (lastPost (pre ++ [i])) t.app.blinky.patternOnly := by
  have hplayer := step_isPlayer hstep (p := ⟨d.app.blinky.patternOnly, none⟩) rfl
  rw [lastPost_concat]
  cases hinput : d.playerInput i with
  | none =>
    have hsame : d.app.blinky.patternOnly = t.app.blinky.patternOnly := hplayer.1 hinput
    -- what the player does not see is no POST either, so that the last one is the same
    rw [post_of_playerInput_eq_none hstep hinput, ← hsame]
    exact ⟨howns, hheld⟩
  | some j =>
    obtain ⟨q, hq, hq'⟩ := hplayer.2 j hinput
    rw [← hq']
    unfold playerInput App.playerInput at hinput
    split at hinput
    · split at hinput
      · next env _ _ =>
        -- a POST plays the pattern that is stored, the last one written
        obtain ⟨patternStr, hstr, rfl⟩ := Option.map_eq_some_iff.mp hinput
        have hlast : lastPattern pre = some patternStr := (run_pattern hd).symm.trans hstr
        dsimp only [Input.post]
        rw [hlast]
        exact Player.holdsPlayback_start ⟨env.malloc, patternStr⟩ howns rfl hq
      · rw [Option.some.injEq] at hinput
        subst hinput
        dsimp only [Input.post]
        exact Player.holdsPlayback_patternTimer howns hheld hq
      · simp at hinput
    · simp at hinput

/-- What the player holds, after every run. -/
theorem run_holdsPlayback {defaultInstance : Option NetworkInterface} {is : List Input}
    (hrun : run step (boot defaultInstance) is = .ok t) :
    t.app.blinky.patternOnly.Owns ∧
      HoldsPlayback (lastPost is) t.app.blinky.patternOnly := by
  refine run_induction (P := fun is (t : Device) => t.app.blinky.patternOnly.Owns ∧
    HoldsPlayback (lastPost is) t.app.blinky.patternOnly) ⟨?_, rfl, rfl, rfl⟩ ?_ hrun
  · intro a
    exact iff_of_false Bool.false_ne_true (by simp [boot, attempt, settle, Blinky.patternOnly,
      App.enterInitConnection])
  · intro is d i t hd hheld hstep
    exact step_holdsPlayback hd hstep hheld.1 hheld.2

end Device

/-- The player holds the pattern of the last POST, up to its NUL, in the one block of the
heap, with the cursor inside; or, if `malloc` failed for that POST or there was none, the
heap is empty and the cursor NULL. -/
structure HoldsPattern (last : Option Posted) (b : Blinky) : Prop where
  owns : ∀ a, (b.heap.block a).isSome = true ↔ b.pattern = some a
  stored : ∀ p, last = some p → p.malloc = true → ∃ a n, b.pattern = some a ∧
    b.heap.block a = some (.ofBytes p.text) ∧ b.currPattern = some ⟨a, n⟩ ∧ n ≤ p.text.length
  empty : (∀ p, last = some p → p.malloc = false) → b.pattern = none ∧ b.currPattern = none

/-- **The heap holds the pattern of the last POST**, exactly, or nothing if there was no
memory for it, whatever else happens to the device: nothing is leaked, nothing is freed
twice, and the cursor never leaves the buffer. -/
theorem device_holds_pattern (defaultInstance : Option NetworkInterface) (is : List Input) :
    Always Device.step (.boot defaultInstance) is fun pre d =>
      HoldsPattern (lastPost pre) d.app.blinky := by
  intro pre d _ h
  obtain ⟨howns, hheld⟩ := Device.run_holdsPlayback h
  refine ⟨howns, ?_, ?_⟩
  · intro p hlast hmalloc
    rw [hlast] at hheld
    dsimp only [HoldsPlayback] at hheld
    rw [if_pos hmalloc] at hheld
    obtain ⟨v, hv, htext⟩ := hheld
    obtain ⟨a, hpattern, hblock, hcursor⟩ := hv.buffer
    -- the text ends with its NUL, and the cursor is on it at most
    have hinside := v.inside
    rw [htext] at hinside hblock
    refine ⟨a, v.offset, hpattern, hblock, hcursor, ?_⟩
    exact Nat.le_of_lt_succ (by simpa [CString.ofBytes] using hinside)
  · intro hfails
    cases hlast : lastPost pre with
    | none =>
      rw [hlast] at hheld
      exact ⟨hheld.1, hheld.2.1⟩
    | some p =>
      rw [hlast] at hheld
      dsimp only [HoldsPlayback] at hheld
      rw [hfails p hlast, if_neg Bool.false_ne_true] at hheld
      exact hheld

end PelionClientLite
