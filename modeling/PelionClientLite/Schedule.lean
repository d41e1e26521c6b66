import Mathlib.Data.Nat.Find
import PelionClientLite.PatternPlayer
import PelionClientLite.Reading

/-!
# A pattern is played as it reads

`start` reads the first field of a pattern, and each timer it leads to reads the next.
Taken together they ask for the delays the pattern stands for, one timer and one toggle
for each, and when the pattern is to be played again they go on from its first delay.

## Main definitions

* `fieldIndex`, `delayAt` — which delay comes after so many others.
* `schedule` — the first delays a pattern asks for.
* `played` — the calls a list of delays leads to.
* `Playback.After` — a playback some timers after its start.

## Main results

* `Playback.After.handlePatternEvent` — each timer plays one delay more.
* `start_plays_delays` — **a start with no timer pending, and the timers that follow,
  play the delays of the pattern in order, once or for ever.**
-/

namespace PelionClientLite

open CLib Machine

/-! ### The schedule -/

/-- Which of the delays is the `n`-th to be requested, counting from zero. -/
def fieldIndex (ds : List ℤ) (patternRestart : Bool) (n : ℕ) : ℕ :=
  if patternRestart then n % ds.length else n

/-- The `n`-th delay to be requested, if there is one. -/
def delayAt (ds : List ℤ) (patternRestart : Bool) (n : ℕ) : Option ℤ :=
  ds[fieldIndex ds patternRestart n]?

/-- The first `n` delays to be requested, or as many as there are. -/
def schedule (ds : List ℤ) (patternRestart : Bool) (n : ℕ) : List ℤ :=
  (List.range n).filterMap (delayAt ds patternRestart)

/-- The calls that play a list of delays, newest first. -/
def played (ds : List ℤ) : List BlinkyCall :=
  ds.reverse.flatMap fun d => [.toggleLed, .sendAfter .patternTimer d]

theorem schedule_succ (ds : List ℤ) (r : Bool) (n : ℕ) :
    schedule ds r (n + 1) = schedule ds r n ++ (delayAt ds r n).toList := by
  rw [schedule, List.range_succ, List.filterMap_append, ← schedule]
  cases h : delayAt ds r n <;> simp [h]

/-- A pattern that is played once asks for its delays in order. -/
theorem schedule_false (ds : List ℤ) (n : ℕ) : schedule ds false n = ds.take n := by
  induction n with
  | zero => rfl
  | succ n ih => rw [schedule_succ, ih, List.take_add_one, delayAt, fieldIndex, if_neg (by decide)]

theorem played_concat (ds : List ℤ) (d : ℤ) :
    played (ds ++ [d]) = .toggleLed :: .sendAfter .patternTimer d :: played ds := by
  simp [played]

theorem delayAt_eq_some {ds : List ℤ} {r : Bool} {n : ℕ} (h : fieldIndex ds r n < ds.length) :
    delayAt ds r n = some ds[fieldIndex ds r n] := List.getElem?_eq_getElem h

/-- The index moves by one, and back to the start where the pattern is played again. -/
theorem fieldIndex_succ {ds : List ℤ} {r : Bool} {n : ℕ} (h : fieldIndex ds r n < ds.length) :
    fieldIndex ds r (n + 1) =
      if r = true ∧ fieldIndex ds r n + 1 = ds.length then 0 else fieldIndex ds r n + 1 := by
  cases r with
  | false => rfl
  | true =>
    simp only [fieldIndex, if_true, true_and] at h ⊢
    rw [Nat.add_mod_eq_ite]
    by_cases hlen : ds.length = 1
    · simp [hlen, Nat.mod_one]
    · have hone : 1 % ds.length = 1 := Nat.mod_eq_of_lt (by omega)
      rw [hone]
      split <;> split <;> omega

theorem nonneg_of_mem_delays {pattern : List UInt8} {d : ℤ} (h : d ∈ delays pattern) : 0 ≤ d := by
  rw [delays, List.mem_filterMap] at h
  obtain ⟨x, hx, rfl⟩ := h
  have hmem := (List.takeWhile_subset _) hx
  rw [List.mem_map] at hmem
  obtain ⟨f, -, hf⟩ := hmem
  exact (fieldDelay_eq_some.mp hf).2

/-! ### The playback -/

namespace Playback

variable {v : Playback} {pattern : List UInt8}

/-- A step at a delay of the pattern requests it. -/
theorem runStep_of_lt (h0 : 0 ∉ pattern) (htext : v.text = .ofBytes pattern) {k : ℕ}
    (hk : v.offset = cursor v.text k) (hlt : k < (delays pattern).length) :
    v.runStep = (true, { v.advance with
      state := .started, due := v.due + 1,
      log := .toggleLed :: .sendAfter .patternTimer (delays pattern)[k] :: v.log }) := by
  have hread : v.read = (delays pattern)[k] := by
    rw [read_eq_field hk, htext, field_eq_delays h0 hlt]
  have hnonneg : ¬ v.read < 0 := by
    rw [hread]
    exact not_lt.mpr (nonneg_of_mem_delays (List.getElem_mem hlt))
  rw [runStep_of_nonneg hnonneg, hread]

/-- A step after the last delay of the pattern finds nothing to request. -/
theorem runStep_of_length (h0 : 0 ∉ pattern) (htext : v.text = .ofBytes pattern)
    (hk : v.offset = cursor v.text (delays pattern).length) :
    v.runStep = (false, { v.advance with state := .idle }) := by
  apply runStep_of_neg
  rw [read_eq_field hk, htext]
  exact field_delays_length h0

theorem handlePatternEvent_of_success (h : v.runStep.1 = true) :
    v.handlePatternEvent = v.runStep.2 := by
  simp [Playback.handlePatternEvent, h]

theorem handlePatternEvent_of_not_restart (h : v.restart = false) :
    v.handlePatternEvent = v.runStep.2 := by
  simp [Playback.handlePatternEvent, h]

/-- A step that has failed is followed by one from the start of the pattern. -/
theorem handlePatternEvent_of_restart (h : v.runStep.1 = false) (hr : v.restart = true) :
    v.handlePatternEvent = v.runStep.2.rewind.runStep.2 := by
  simp [Playback.handlePatternEvent, h, hr]

/-- A playback, started with the log `log`, after `n` more timers. -/
structure After (pattern : List UInt8) (patternRestart : Bool) (log : List BlinkyCall) (n : ℕ)
    (v : Playback) : Prop where
  text : v.text = .ofBytes pattern
  restart : v.restart = patternRestart
  /-- What has been requested is the schedule. -/
  log : v.log = played (schedule (delays pattern) patternRestart (n + 1)) ++ log
  /-- A delay was requested last, and the cursor stands behind it. -/
  started : fieldIndex (delays pattern) patternRestart n < (delays pattern).length →
    v.due = 1 ∧ v.state = .started ∧
      v.offset = cursor v.text (fieldIndex (delays pattern) patternRestart n + 1)
  /-- There was none left to request. -/
  idle : ¬ fieldIndex (delays pattern) patternRestart n < (delays pattern).length →
    v.due = 0 ∧ v.state = .idle

/-- The step that requests the `n`-th delay. -/
theorem After.of_runStep {r : Bool} {log : List BlinkyCall} {n : ℕ} (h0 : 0 ∉ pattern)
    (htext : v.text = .ofBytes pattern) (hrestart : v.restart = r) (hdue : v.due = 0)
    (hlog : v.log = played (schedule (delays pattern) r n) ++ log)
    (hlt : fieldIndex (delays pattern) r n < (delays pattern).length)
    (hk : v.offset = cursor v.text (fieldIndex (delays pattern) r n)) :
    After pattern r log n v.runStep.2 := by
  rw [runStep_of_lt h0 htext hk hlt]
  have hoffset := advance_offset hk
  refine ⟨htext, hrestart, ?_, fun _ => ⟨?_, rfl, hoffset⟩, fun hge => absurd hlt hge⟩
  · rw [schedule_succ, delayAt_eq_some hlt, Option.toList_some, played_concat, hlog]
    rfl
  · rw [hdue]

/-- The step that finds no `n`-th delay. -/
theorem After.of_runStep_end {r : Bool} {log : List BlinkyCall} {n : ℕ} (h0 : 0 ∉ pattern)
    (htext : v.text = .ofBytes pattern) (hrestart : v.restart = r) (hdue : v.due = 0)
    (hlog : v.log = played (schedule (delays pattern) r n) ++ log)
    (hge : ¬ fieldIndex (delays pattern) r n < (delays pattern).length)
    (hk : v.offset = cursor v.text (delays pattern).length) :
    After pattern r log n v.runStep.2 := by
  rw [runStep_of_length h0 htext hk]
  refine ⟨htext, hrestart, ?_, fun hlt => absurd hlt hge, fun _ => ⟨hdue, rfl⟩⟩
  rw [schedule_succ, delayAt, List.getElem?_eq_none (not_lt.mp hge), Option.toList_none,
    List.append_nil]
  exact hlog

/-- The step `start` makes. -/
theorem after_start (h0 : 0 ∉ pattern) (r : Bool) (log : List BlinkyCall) :
    After pattern r log 0 (ofPattern pattern r 0 log).runStep.2 := by
  have hindex : fieldIndex (delays pattern) r 0 = 0 := by simp [fieldIndex]
  by_cases hds : delays pattern = []
  · apply After.of_runStep_end (v := ofPattern pattern r 0 log) h0 rfl rfl rfl rfl
    · simp [hds]
    · simp [hds, ofPattern, cursor]
  · have hlt : fieldIndex (delays pattern) r 0 < (delays pattern).length := by
      rw [hindex]
      exact List.length_pos_iff.mpr hds
    apply After.of_runStep (v := ofPattern pattern r 0 log) h0 rfl rfl rfl rfl hlt
    show 0 = cursor _ (fieldIndex (delays pattern) r 0)
    rw [hindex]
    rfl

/-- **Each timer plays one delay more.** -/
theorem After.handlePatternEvent {r : Bool} {log : List BlinkyCall} {n : ℕ} (h0 : 0 ∉ pattern)
    (hv : After pattern r log n v)
    (hlt : fieldIndex (delays pattern) r n < (delays pattern).length) :
    After pattern r log (n + 1) ({ v with due := v.due - 1 } : Playback).handlePatternEvent := by
  obtain ⟨hdue, -, hoffset⟩ := hv.started hlt
  have hindex := fieldIndex_succ hlt
  have hdue' : v.due - 1 = 0 := by omega
  set w : Playback := { v with due := v.due - 1 }
  by_cases hend : fieldIndex (delays pattern) r n + 1 = (delays pattern).length
  · -- that was the last delay of the pattern
    have hk : w.offset = cursor w.text (delays pattern).length := by
      rw [← hend]
      exact hoffset
    have hstep := runStep_of_length (v := w) h0 hv.text hk
    have hfail : w.runStep.1 = false := by rw [hstep]
    cases r with
    | false =>
      rw [handlePatternEvent_of_not_restart (v := w) hv.restart]
      apply After.of_runStep_end (v := w) h0 hv.text hv.restart hdue' hv.log ?_ hk
      simp [hindex, hend]
    | true =>
      rw [if_pos ⟨rfl, hend⟩] at hindex
      rw [handlePatternEvent_of_restart hfail hv.restart, hstep]
      apply After.of_runStep (v := Playback.rewind { w.advance with state := .idle }) h0 hv.text
        hv.restart hdue' hv.log
      · rw [hindex]
        omega
      · rw [hindex]
        rfl
  · -- there is another one
    rw [if_neg (fun h => hend h.2)] at hindex
    have hlt' : fieldIndex (delays pattern) r (n + 1) < (delays pattern).length := by omega
    have hk : w.offset = cursor w.text (fieldIndex (delays pattern) r (n + 1)) := by
      rw [hindex]
      exact hoffset
    have hsuccess : w.runStep.1 = true := by rw [runStep_of_lt (v := w) h0 hv.text hk hlt']
    rw [handlePatternEvent_of_success hsuccess]
    exact After.of_runStep (v := w) h0 hv.text hv.restart hdue' hv.log hlt' hk

end Playback

/-! ### The player -/

namespace Player

variable {p : Player} {v : Playback}

/-- What the timers after a start lead to, as long as there are any. -/
theorem run_timers_spec {pattern : List UInt8} {r : Bool} {log : List BlinkyCall}
    (h0 : 0 ∉ pattern) {envs : List Env} (henvs : ∀ e ∈ envs, e.sendAfter .patternTimer = true)
    {n : ℕ} (h : Plays p.blinky v) (hv : v.After pattern r log n)
    (hmore : ∀ k < envs.length, fieldIndex (delays pattern) r (n + k) < (delays pattern).length) :
    ∃ q w, run Player.step p (envs.map .patternTimer) = .ok q ∧ q.lastStart = p.lastStart ∧
      Plays q.blinky w ∧ w.After pattern r log (n + envs.length) := by
  induction envs generalizing p v n with
  | nil => exact ⟨p, v, rfl, rfl, h, hv⟩
  | cons e envs ih =>
    rw [List.forall_mem_cons] at henvs
    have hlt := hmore 0 (Nat.succ_pos _)
    have hdue := (hv.started hlt).1
    obtain ⟨b, hok, hb⟩ := step_timer_of_plays h (by omega) henvs.1
    obtain ⟨q, w, hrun, hlast, hq, hw⟩ := ih (p := { p with blinky := b }) henvs.2 hb
      (hv.handlePatternEvent h0 hlt) (by
        intro k hk
        have hnext := hmore (k + 1) (Nat.succ_lt_succ hk)
        rwa [Nat.add_right_comm, Nat.add_assoc])
    refine ⟨q, w, ?_, hlast, hq, ?_⟩
    · rw [List.map_cons, run_cons_ok hok]
      exact hrun
    · rwa [List.length_cons, ← Nat.add_assoc, Nat.add_right_comm]

end Player

/-- How the timers after a start of `pattern` go on: `q` is the player the start has left
behind, `log` the calls made before it. -/
structure PlaysDelays (q : Player) (pattern : List UInt8) (patternRestart : Bool)
    (log : List BlinkyCall) (envs : List Env) : Prop where
  /-- As long as there is a delay for each timer but the last, all of them are delivered. -/
  delivered : (∀ k < envs.length, (delayAt (delays pattern) patternRestart k).isSome) →
    ∃ q', run Player.step q (envs.map .patternTimer) = .ok q' ∧
      q'.blinky.log = played (schedule (delays pattern) patternRestart (envs.length + 1)) ++ log ∧
      ((delayAt (delays pattern) patternRestart envs.length).isSome →
        q'.blinky.state = .started ∧ q'.blinky.pendingCount .patternTimer = 1) ∧
      (delayAt (delays pattern) patternRestart envs.length = none →
        q'.blinky.state = .idle ∧ q'.blinky.pendingCount .patternTimer = 0)
  /-- After that there is no timer to deliver. -/
  refused : (∃ k < envs.length, delayAt (delays pattern) patternRestart k = none) →
    run Player.step q (envs.map .patternTimer) = .error .refused

theorem isSome_delayAt {ds : List ℤ} {r : Bool} {n : ℕ} :
    (delayAt ds r n).isSome ↔ fieldIndex ds r n < ds.length := by
  simp [delayAt]

theorem delayAt_eq_none {ds : List ℤ} {r : Bool} {n : ℕ} :
    delayAt ds r n = none ↔ ¬ fieldIndex ds r n < ds.length := by
  simp [delayAt]

/-- A player at the start of the playback plays the delays of the pattern. -/
theorem playsDelays_of_after {q : Player} {v : Playback} {pattern : List UInt8} {r : Bool}
    {log : List BlinkyCall} (h0 : 0 ∉ pattern) (h : Plays q.blinky v)
    (hv : v.After pattern r log 0) {envs : List Env}
    (henvs : ∀ e ∈ envs, e.sendAfter .patternTimer = true) : PlaysDelays q pattern r log envs := by
  refine ⟨?_, ?_⟩
  · intro hmore
    obtain ⟨q', w, hrun, -, hq', hw⟩ := Player.run_timers_spec h0 henvs h hv (by
      intro k hk
      rw [Nat.zero_add]
      exact isSome_delayAt.mp (hmore k hk))
    rw [Nat.zero_add] at hw
    refine ⟨q', hrun, ?_, ?_, ?_⟩
    · rw [hq'.log, hw.log]
    · intro hsome
      obtain ⟨hdue, hstate, -⟩ := hw.started (isSome_delayAt.mp hsome)
      exact ⟨hq'.state.trans hstate, hq'.due.trans hdue⟩
    · intro hnone
      obtain ⟨hdue, hstate⟩ := hw.idle (delayAt_eq_none.mp hnone)
      exact ⟨hq'.state.trans hstate, hq'.due.trans hdue⟩
  · rintro hend
    -- the timers before the first that finds no delay requested are all delivered
    obtain ⟨hk, hnone⟩ := Nat.find_spec hend
    set k := Nat.find hend with hkdef
    have hsplit : envs = envs.take k ++ envs[k] :: envs.drop (k + 1) := by
      rw [← List.drop_eq_getElem_cons hk, List.take_append_drop]
    have hlen : (envs.take k).length = k := List.length_take_of_le hk.le
    have hgranted : ∀ e ∈ envs.take k, e.sendAfter .patternTimer = true :=
      fun e he => henvs e (List.mem_of_mem_take he)
    obtain ⟨q', w, hrun, -, hq', hw⟩ := Player.run_timers_spec h0 hgranted h hv (by
        intro j hj
        rw [hlen] at hj
        rw [Nat.zero_add, ← isSome_delayAt, Option.isSome_iff_ne_none]
        exact fun hj' => Nat.find_min hend hj ⟨hj.trans hk, hj'⟩)
    rw [Nat.zero_add, hlen] at hw
    have hdue := (hw.idle (delayAt_eq_none.mp hnone)).1
    rw [hsplit, List.map_append, List.map_cons, run_append, hrun, Except.bind, run,
      Player.step_timer_refused hq' hdue]

/-- **A pattern is played as it reads.**  A start that finds no pattern timer pending
comes back, unless there is no tasklet and none can be created; it returns true if and
only if the pattern has a delay; and the timers that follow play the delays in order,
once, or again and again. -/
theorem start_plays_delays {p : Player} {env : Env} {pattern : List UInt8} {r : Bool}
    (h0 : 0 ∉ pattern) (hpending : p.blinky.pendingCount .patternTimer = 0)
    (henv : env.Granted) :
    (p.blinky.tasklet < 0 ∧ env.handlerCreate < 0 ∧
      p.step (.start env pattern r) = .error .assertionFailed) ∨
    ∃ q, p.step (.start env pattern r) = .ok q ∧
      (q.lastStart = some true ↔ delays pattern ≠ []) ∧
      ∀ envs : List Env, (∀ e ∈ envs, e.sendAfter .patternTimer = true) →
        PlaysDelays q pattern r p.blinky.log envs := by
  by_cases hcreate : p.blinky.tasklet < 0 → ¬ env.handlerCreate < 0
  · right
    obtain ⟨ok, b, hok⟩ := Blinky.start_isOk hcreate henv.1 henv.2 pattern r
    obtain ⟨hfst, hb⟩ := Blinky.start_spec henv.1 hok
    rw [hpending] at hfst hb
    have hv := Playback.after_start h0 r p.blinky.log
    refine ⟨{ blinky := b, lastStart := some ok }, by simp [Player.step, hok], ?_, ?_⟩
    · rw [Option.some.injEq, hfst]
      by_cases hds : delays pattern = []
      · have hk : (Playback.ofPattern pattern r 0 p.blinky.log).offset =
            cursor (.ofBytes pattern) (delays pattern).length := by
          rw [hds]
          rfl
        rw [Playback.runStep_of_length h0 rfl hk]
        simp [hds]
      · rw [Playback.runStep_of_lt h0 rfl (k := 0) rfl (List.length_pos_iff.mpr hds)]
        simp [hds]
    · intro envs henvs
      exact playsDelays_of_after h0 hb hv henvs
  · left
    obtain ⟨htasklet, hno⟩ := Classical.not_imp.mp hcreate
    rw [not_not] at hno
    refine ⟨htasklet, hno, ?_⟩
    simp [Player.step, Blinky.start, Blinky.createTasklet, htasklet, hno]

/-- `5:1`, played again and again, has come back to `5` after two timers. -/
theorem start_plays_delays_again :
    ∃ q q', Player.step {} (.start {} [53, 58, 49] true) = .ok q ∧ q.lastStart = some true ∧
      run Player.step q [.patternTimer {}, .patternTimer {}] = .ok q' ∧
      q'.blinky.log = played [5, 1, 5] := by
  have hdelays : delays [53, 58, 49] = [5, 1] := by decide
  have hpending : ({} : Player).blinky.pendingCount .patternTimer = 0 := rfl
  have henv : ({} : Env).Granted := ⟨rfl, rfl⟩
  rcases start_plays_delays (p := {}) (r := true) (by decide : (0 : UInt8) ∉ [53, 58, 49])
    hpending henv with ⟨-, hno, -⟩ | ⟨q, hq, hlast, htimers⟩
  · exact absurd hno (by decide)
  · have hplays := htimers [{}, {}] (by simp)
    rw [hdelays] at hlast
    obtain ⟨q', hrun, hlog, -⟩ := hplays.delivered (by
      rw [hdelays]
      decide)
    rw [hdelays] at hlog
    refine ⟨q, q', hq, hlast.mpr (by decide), hrun, ?_⟩
    exact hlog

end PelionClientLite
