import PelionClientLite.DevicePlayer

/-!
# Patterns that overlap

A POST does not wait for the pattern timers of earlier patterns, and does not take them
back.  They come all the same, and each reads a field of the new pattern: with `k` of them
pending, `k + 1` timers share one cursor.  Together they read its fields in order; each
field that is a delay keeps the timer that read it going, and each that is none stops it,
though the others go on to the fields behind.

## Main definitions

* `readings` — the delays among the first fields a cursor comes to.
* `Playback.ReadTo` — a playback some timers after its start, however many are pending.

## Main results

* `readings_eq_take` — up to the first field that is none, they are the delays of the
  pattern.
* `Playback.ReadTo.handlePatternEvent` — each timer reads one field more.
* `device_plays_readings` — **a POST is played by its own timer and those that were pending,
  field by field**, in the midst of everything.
-/

namespace PelionClientLite

open CLib Machine

/-! ### The fields a cursor comes to -/

/-- The delays among the first `n` fields the cursor comes to. -/
def readings (text : List UInt8) (n : ℕ) : List ℤ :=
  ((List.range n).map (field (.ofBytes text))).filter (0 ≤ ·)

variable {text : List UInt8} {n : ℕ}

theorem readings_succ_of_neg (h : field (.ofBytes text) n < 0) :
    readings text (n + 1) = readings text n := by
  have hnot : ¬ 0 ≤ field (.ofBytes text) n := not_le.mpr h
  simp [readings, List.range_succ, List.filter_append, hnot]

theorem readings_succ_of_nonneg (h : ¬ field (.ofBytes text) n < 0) :
    readings text (n + 1) = readings text n ++ [field (.ofBytes text) n] := by
  have hle : 0 ≤ field (.ofBytes text) n := not_lt.mp h
  simp [readings, List.range_succ, List.filter_append, hle]

/-- **Up to the first field that is none, they are the delays of the pattern.** -/
theorem readings_eq_take (h0 : 0 ∉ text) (hn : n ≤ (delays text).length) :
    readings text n = (delays text).take n := by
  induction n with
  | zero => rfl
  | succ n ih =>
    -- the field the cursor comes to next is a delay still
    have hlt : n < (delays text).length := hn
    have hfield := field_eq_delays h0 hlt
    have hnonneg : ¬ field (.ofBytes text) n < 0 := by
      rw [hfield]
      exact not_lt.mpr (nonneg_of_mem_delays (List.getElem_mem hlt))
    rw [readings_succ_of_nonneg hnonneg, ih hlt.le, hfield, List.take_add_one,
      List.getElem?_eq_getElem hlt, Option.toList_some]

/-! ### The playback -/

namespace Playback

variable {v : Playback} {k : ℕ} {log : List BlinkyCall}

/-- A playback, started with `k` timers pending and the log `log`, after `n` more timers. -/
structure ReadTo (pattern : List UInt8) (k : ℕ) (log : List BlinkyCall) (n : ℕ) (v : Playback) :
    Prop where
  text : v.text = .ofBytes pattern
  restart : v.restart = false
  offset : v.offset = cursor v.text (n + 1)
  log : v.log = played (readings pattern (n + 1)) ++ log
  /-- Every delay keeps a timer going. -/
  due : v.due + n = k + (readings pattern (n + 1)).length
  state : v.state = if field (.ofBytes pattern) n < 0 then .idle else .started

/-- A step at the `n`-th field. -/
theorem ReadTo.of_runStep (htext : v.text = .ofBytes text) (hrestart : v.restart = false)
    (hoffset : v.offset = cursor v.text n) (hlog : v.log = played (readings text n) ++ log)
    (hdue : v.due + n = k + (readings text n).length) : v.runStep.2.ReadTo text k log n := by
  -- the field decides: a delay asks for a timer, anything else is passed over
  have hread : v.read = field (.ofBytes text) n := by rw [read_eq_field hoffset, htext]
  have hnext := advance_offset hoffset
  by_cases hneg : field (.ofBytes text) n < 0
  · rw [runStep_of_neg (hread ▸ hneg)]
    refine ⟨htext, hrestart, hnext, ?_, ?_, (if_pos hneg).symm⟩
    · rw [readings_succ_of_neg hneg]
      exact hlog
    · rw [readings_succ_of_neg hneg]
      exact hdue
  · rw [runStep_of_nonneg (hread ▸ hneg)]
    refine ⟨htext, hrestart, hnext, ?_, ?_, (if_neg hneg).symm⟩
    · rw [readings_succ_of_nonneg hneg, played_concat, ← hread]
      show _ :: _ :: v.log = _
      rw [hlog]
      rfl
    · rw [readings_succ_of_nonneg hneg, List.length_append, List.length_singleton]
      show v.due + 1 + n = _
      omega

/-- The step a start makes. -/
theorem readTo_start (text : List UInt8) (k : ℕ) (log : List BlinkyCall) :
    (ofPattern text false k log).runStep.2.ReadTo text k log 0 :=
  .of_runStep rfl rfl rfl rfl rfl

/-- **Each timer reads one field more.** -/
theorem ReadTo.handlePatternEvent (hv : v.ReadTo text k log n) (hdue : 0 < v.due) :
    ({ v with due := v.due - 1 } : Playback).handlePatternEvent.ReadTo text k log (n + 1) := by
  rw [handlePatternEvent_of_not_restart (v := { v with due := v.due - 1 }) hv.restart]
  refine .of_runStep hv.text hv.restart hv.offset hv.log ?_
  have hcount := hv.due
  show v.due - 1 + (n + 1) = _
  omega

end Playback

/-! ### The device -/

/-- How far a pattern has been played after `n` timers, where `k` were pending when it was
started, and `log` is what had been asked for before. -/
structure PlayedReadings (text : List UInt8) (k : ℕ) (log : List BlinkyCall) (n : ℕ)
    (b : Blinky) : Prop where
  log : b.patternOnly.log = played (readings text (n + 1)) ++ log
  pending : b.pendingCount .patternTimer + n = k + (readings text (n + 1)).length
  state : b.state = if field (.ofBytes text) n < 0 then .idle else .started

/-- Until the first field that is no delay, the delays of the pattern are played in order, with
all the timers going on. -/
theorem PlayedReadings.in_order {k : ℕ} {log : List BlinkyCall} {b : Blinky} (h0 : 0 ∉ text)
    (h : PlayedReadings text k log n b) (hlt : n < (delays text).length) :
    b.patternOnly.log = played ((delays text).take (n + 1)) ++ log ∧
      b.pendingCount .patternTimer = k + 1 ∧ b.state = .started := by
  have htake := readings_eq_take h0 (Nat.succ_le_of_lt hlt)
  have hnonneg : ¬ field (.ofBytes text) n < 0 := by
    rw [field_eq_delays h0 hlt]
    exact not_lt.mpr (nonneg_of_mem_delays (List.getElem_mem hlt))
  have hpending := h.pending
  rw [htake, List.length_take_of_le (Nat.succ_le_of_lt hlt)] at hpending
  exact ⟨htake ▸ h.log, by omega, h.state.trans (if_neg hnonneg)⟩

/-- **A POST is played by its own timer and those that were pending, field by field.**
Whatever happens to the device until the next POST, each pattern timer reads one field more
of the pattern last written; the delays among them are requested in order, and each of them
keeps a timer going. -/
theorem device_plays_readings {defaultInstance : Option NetworkInterface} {is js : List Input}
    {env : Env} {path : RegistryPath} {token : Token} {d t : Device}
    (hd : run Device.step (.boot defaultInstance) is = .ok d) (hmalloc : env.malloc = true)
    (ht : run Device.step d (.run (.blinkCallback env .execute path token) :: js) = .ok t)
    (hposts : ∀ j ∈ js, ¬ j.IsPost) :
    ∃ patternStr, lastPattern is = some patternStr ∧
      PlayedReadings (patternStr.takeWhile (· != 0)) (d.app.blinky.pendingCount .patternTimer)
        d.app.blinky.patternOnly.log (js.countP (·.isPatternTimer)) t.app.blinky := by
  cases hpost : d.step (.run (.blinkCallback env .execute path token)) with
  | error e => simp [run, hpost] at ht
  | ok u =>
    rw [run_cons_ok hpost] at ht
    obtain ⟨patternStr, success, hpattern, -⟩ := App.handle_post (Device.handle_of_step hpost)
    refine ⟨patternStr, Device.run_pattern hd ▸ hpattern, ?_⟩
    set text := patternStr.takeWhile (· != 0)
    set k := d.app.blinky.pendingCount .patternTimer
    set log := d.app.blinky.patternOnly.log
    -- the timers of earlier patterns are pending still, and read on in the new one
    have hstart : ∃ v, Plays u.app.blinky.patternOnly v ∧ v.ReadTo text k log 0 :=
      ⟨_, Device.post_plays hpattern hmalloc hpost, Playback.readTo_start text k log⟩
    have hplays : ∃ v, Plays t.app.blinky.patternOnly v ∧
        v.ReadTo text k log (0 + js.countP (·.isPatternTimer)) := by
      refine Device.run_patternTimers (Q := fun n b => ∃ v, Plays b v ∧ v.ReadTo text k log n)
        ?_ ht hposts hstart
      rintro n p q env ⟨v, hv, hread⟩ hq
      obtain ⟨hmem, c, hc, rfl⟩ := Player.step_patternTimer_spec hq
      have hdue : 0 < v.due := by
        rw [← hv.due]
        exact mem_pending_iff.mp hmem
      exact ⟨_, (Blinky.plays_of_handlePatternEvent hv.deliver hc).2,
        hread.handlePatternEvent hdue⟩
    obtain ⟨v, hv, hread⟩ := hplays
    rw [Nat.zero_add] at hread
    refine ⟨hv.log.trans hread.log, ?_, hv.state.trans hread.state⟩
    rw [← Blinky.patternOnly_pendingCount, hv.due]
    exact hread.due

/-- The pattern `5:7` is started twice, and then three timers come. -/
theorem device_plays_readings_twice :
    ∃ d t, run Device.step (.boot (some ⟨0⟩))
        (Device.startUp ++ [.run (.putPattern [53, 58, 55]),
          .run (.blinkCallback {} .execute blinkPath ⟨[1]⟩)]) = .ok d ∧
      run Device.step d (.run (.blinkCallback {} .execute blinkPath ⟨[2]⟩) ::
        List.replicate 3 (.run (.taskletEvent {} .patternTimer))) = .ok t ∧
      ∃ patternStr, lastPattern (Device.startUp ++ [.run (.putPattern [53, 58, 55]),
          .run (.blinkCallback {} .execute blinkPath ⟨[1]⟩)]) = some patternStr ∧
        PlayedReadings (patternStr.takeWhile (· != 0))
          (d.app.blinky.pendingCount .patternTimer) d.app.blinky.patternOnly.log 3
          t.app.blinky := by
  have hrun : ∃ d t, run Device.step (.boot (some ⟨0⟩))
        (Device.startUp ++ [.run (.putPattern [53, 58, 55]),
          .run (.blinkCallback {} .execute blinkPath ⟨[1]⟩)]) = .ok d ∧
      run Device.step d (.run (.blinkCallback {} .execute blinkPath ⟨[2]⟩) ::
        List.replicate 3 (.run (.taskletEvent {} .patternTimer))) = .ok t := ⟨_, _, rfl, rfl⟩
  obtain ⟨d, t, hd, ht⟩ := hrun
  refine ⟨d, t, hd, ht, device_plays_readings hd rfl ht ?_⟩
  simp [Input.IsPost]

end PelionClientLite
