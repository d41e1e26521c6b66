import PelionClientLite.DevicePlayer
import PelionClientLite.WrittenDelays

/-!
# Spelling a pattern

Whoever wants some delays to be played writes them in decimal, with colons between them.
The player reads back what was written, but for delays that do not fit in a `long`, of
which it plays the largest that does.  Every pattern has a spelling of this kind that
plays alike, however it is written.

## Main definitions

* `spell` — the pattern that spells a list of delays.

## Main results

* `delays_spell` — the delays of a spelling are the ones that were spelled.
* `delays_spell_delays` — every pattern plays like the spelling of its delays.
* `device_plays_spelling` — **a PUT and a POST play back what was spelled**, in the midst
  of everything.
-/

namespace PelionClientLite

open CLib Machine

/-! ### The spelling -/

/-- The delays in decimal, with colons between them. -/
def spell : List ℕ → List UInt8
  | [] => []
  | [d] => decimal d
  | d :: ds => decimal d ++ 58 :: spell ds

/-- What is played of a delay that is spelled: a `long` holds no more. -/
def spelled (d : ℕ) : ℤ := min longMax d

theorem spelled_eq_iff {d : ℕ} : spelled d = d ↔ (d : ℤ) ≤ longMax := min_eq_right_iff

theorem colon_notMem_decimal (d : ℕ) : 58 ∉ decimal d := by
  intro hmem
  have hdigit := isdigit_of_mem_decimal hmem
  exact absurd hdigit (by decide)

theorem nul_notMem_decimal (d : ℕ) : 0 ∉ decimal d := by
  intro hmem
  have hdigit := isdigit_of_mem_decimal hmem
  exact absurd hdigit (by decide)

theorem nul_notMem_spell (ds : List ℕ) : 0 ∉ spell ds := by
  induction ds with
  | nil => exact List.not_mem_nil
  | cons d ds ih =>
    cases ds with
    | nil => exact nul_notMem_decimal d
    | cons e ds =>
      intro hmem
      rcases List.mem_append.mp hmem with hd | hrest
      · exact nul_notMem_decimal d hd
      · rcases List.mem_cons.mp hrest with hcolon | hds
        · exact absurd hcolon (by decide)
        · exact ih hds

/-- The delay of a decimal numeral is the number, as far as it fits. -/
theorem fieldDelay_decimal (d : ℕ) : fieldDelay (decimal d) = some (spelled d) := by
  have hvalue := fieldValue_of_numeral (numeral_decimal d)
  have hnonneg : 0 ≤ spelled d := by
    simp only [spelled, longMax]
    omega
  rw [fieldDelay_eq_some, hvalue]
  refine ⟨?_, hnonneg⟩
  congr 1
  -- a numeral is never below `LONG_MIN`
  refine max_eq_right ?_
  simp only [longMin, longMax]
  omega

theorem fields_spell (d : ℕ) (ds : List ℕ) :
    fields (spell (d :: ds)) = decimal d :: fields (spell ds) := by
  cases ds with
  | nil => exact fields_of_not_mem (colon_notMem_decimal d) (decimal_ne_nil d)
  | cons e ds => exact fields_append_cons (colon_notMem_decimal d) _

/-- **The delays of a spelling are the ones that were spelled**, as far as they fit. -/
theorem delays_spell (ds : List ℕ) : delays (spell ds) = ds.map spelled := by
  induction ds with
  | nil => exact delays_nil
  | cons d ds ih =>
    rw [delays_cons (fields_spell d ds) (fieldDelay_decimal d), ih, List.map_cons]

/-- They are exact where all of them fit. -/
theorem delays_spell_eq_iff {ds : List ℕ} :
    delays (spell ds) = ds.map (↑) ↔ ∀ d ∈ ds, (d : ℤ) ≤ longMax := by
  rw [delays_spell, List.map_inj_left]
  exact forall₂_congr fun d _ => spelled_eq_iff

/-- Every delay of a field is one that fits. -/
theorem spelled_toNat_of_fieldDelay {f : List UInt8} {d : ℤ} (h : fieldDelay f = some d) :
    spelled d.toNat = d := by
  obtain ⟨hvalue, hnonneg⟩ := fieldDelay_eq_some.mp h
  have hle : d ≤ longMax := by
    rw [fieldValue] at hvalue
    split at hvalue
    · rw [← Option.some.inj hvalue]
      decide
    · obtain ⟨v, -, rfl⟩ := Option.map_eq_some_iff.mp hvalue
      simp only [longMin, longMax]
      omega
  rw [spelled, Int.toNat_of_nonneg hnonneg]
  exact min_eq_right hle

theorem exists_fieldDelay_of_mem_delays {pattern : List UInt8} {d : ℤ} (h : d ∈ delays pattern) :
    ∃ f, fieldDelay f = some d := by
  obtain ⟨x, hx, hxd⟩ := List.mem_filterMap.mp h
  obtain ⟨f, -, hf⟩ := List.mem_map.mp ((List.takeWhile_prefix _).subset hx)
  exact ⟨f, hf.trans hxd⟩

/-- **Every pattern plays like the spelling of its delays.** -/
theorem delays_spell_delays (pattern : List UInt8) :
    delays (spell ((delays pattern).map Int.toNat)) = delays pattern := by
  rw [delays_spell, List.map_map]
  -- delay by delay: each of them has been read from a field, and so it fits
  conv_rhs => rw [← List.map_id (delays pattern)]
  refine List.map_congr_left fun d hd => ?_
  obtain ⟨f, hf⟩ := exists_fieldDelay_of_mem_delays hd
  exact spelled_toNat_of_fieldDelay hf

/-! ### The device -/

/-- **A PUT and a POST play back what was spelled.**  If the pattern last written spells some
delays, then a POST that finds no pattern timer pending, and memory, requests them one by
one as they were spelled, as far as they fit, whatever happens to the device until the next
POST; and after one timer for each of them the playback is over. -/
theorem device_plays_spelling {defaultInstance : Option NetworkInterface} {is js : List Input}
    {env : Env} {path : RegistryPath} {token : Token} {d t : Device} {ds : List ℕ}
    (hd : run Device.step (.boot defaultInstance) is = .ok d)
    (hspelled : lastPattern is = some (spell ds))
    (hnone : d.app.blinky.pendingCount .patternTimer = 0) (hmalloc : env.malloc = true)
    (ht : run Device.step d (.run (.blinkCallback env .execute path token) :: js) = .ok t)
    (hposts : ∀ j ∈ js, ¬ j.IsPost) :
    js.countP (·.isPatternTimer) ≤ ds.length ∧
      t.app.blinky.patternOnly.log =
        played ((ds.map spelled).take (js.countP (·.isPatternTimer) + 1)) ++
          d.app.blinky.patternOnly.log ∧
      (t.app.blinky.state = .idle ↔ js.countP (·.isPatternTimer) = ds.length) := by
  -- a spelling has no NUL, so that all of it is played
  have htext : (spell ds).takeWhile (· != 0) = spell ds := by
    rw [List.takeWhile_eq_self_iff]
    intro c hc
    simpa using ne_of_mem_of_not_mem hc (nul_notMem_spell ds)
  have hpattern : d.app.registry.pattern = some (spell ds) := Device.run_pattern hd ▸ hspelled
  cases hpost : d.step (.run (.blinkCallback env .execute path token)) with
  | error e => simp [run, hpost] at ht
  | ok u =>
    rw [run_cons_ok hpost] at ht
    have hstart := Device.post_playsAfter hpattern hnone hmalloc hpost
    rw [htext] at hstart
    have hplays := Device.run_playsAfter (nul_notMem_spell ds) ht hposts hstart
    obtain ⟨hbounded, hlog, -, hstate⟩ := hplays.playedSoFar
    rw [delays_spell, List.length_map, Nat.zero_add] at hbounded hstate
    rw [delays_spell, Nat.zero_add] at hlog
    refine ⟨hbounded, hlog, ?_⟩
    rw [hstate]
    split <;> simp <;> omega

/-- The delays 5 and 7 are written, and played. -/
theorem device_plays_spelling_twice :
    ∃ d t, run Device.step (.boot (some ⟨0⟩))
        (Device.startUp ++ [.run (.putPattern (spell [5, 7]))]) = .ok d ∧
      run Device.step d (.run (.blinkCallback {} .execute blinkPath ⟨[1]⟩) ::
        [.run (.taskletEvent {} .patternTimer), .run (.taskletEvent {} .patternTimer)]) = .ok t ∧
      2 ≤ [5, 7].length ∧
      t.app.blinky.patternOnly.log =
        played (([5, 7].map spelled).take 3) ++ d.app.blinky.patternOnly.log ∧
      (t.app.blinky.state = .idle ↔ 2 = [5, 7].length) := by
  have hrun : ∃ d t, run Device.step (.boot (some ⟨0⟩))
        (Device.startUp ++ [.run (.putPattern (spell [5, 7]))]) = .ok d ∧
      run Device.step d (.run (.blinkCallback {} .execute blinkPath ⟨[1]⟩) ::
        [.run (.taskletEvent {} .patternTimer), .run (.taskletEvent {} .patternTimer)]) = .ok t ∧
      d.app.blinky.pendingCount .patternTimer = 0 := ⟨_, _, rfl, rfl, rfl⟩
  obtain ⟨d, t, hd, ht, hnone⟩ := hrun
  refine ⟨d, t, hd, ht, device_plays_spelling hd rfl hnone rfl ht ?_⟩
  simp [Input.IsPost]

end PelionClientLite
