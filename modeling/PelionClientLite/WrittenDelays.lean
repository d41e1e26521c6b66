import Mathlib.Data.List.DropRight
import PelionClientLite.Schedule

/-!
# Delays that are written in the pattern

A delay is written in a pattern if some field is a numeral for it.  The player also
makes up delays: an empty field is played as `0`, and a number that does not fit is
played as the largest that does.  Besides, a timer that is left over from an earlier
pattern may play on after a field that should have stopped the playback.

## Main definitions

* `writtenDelay` — the delay that is written in a field.
* `Written`, `Unplayable`, `NoDelay` — what the text at the cursor may start with.
* `PlaysWritten` — each delay requested is the one written in the field just passed, a
  field in which none is written stops the playback, and a playback that has stopped
  requests nothing.
* `ReadsWritten` — what the step comes to is as it should be.

## Main results

* `playsWritten_iff` — **only delays written in the pattern are played, and all other
  fields stop the playback, exactly when no field come to is empty or too large, and no
  leftover timer comes to a field that can be played.**
-/

namespace PelionClientLite

open CLib Machine

/-! ### Written delays -/

/-- The delay that is written in a field: it is a numeral, and its value is not negative
and fits. -/
def writtenDelay (f : List UInt8) : Option ℤ :=
  (numeral f).filter fun v => 0 ≤ v ∧ v ≤ longMax

/-- The text does not start with a field that is empty or a number too large. -/
def Written (t : List UInt8) : Prop :=
  ∀ f, (fields t).head? = some f → f ≠ [] ∧ ∀ v, numeral f = some v → v ≤ longMax

/-- The text starts with a field that stops the playback, or is at its end. -/
def Unplayable (t : List UInt8) : Prop :=
  ∀ f, (fields t).head? = some f → f ≠ [] ∧ ∀ v, numeral f = some v → v < 0

/-- The text does not start with a field in which a delay is written. -/
def NoDelay (t : List UInt8) : Prop :=
  ∀ f, (fields t).head? = some f → writtenDelay f = none

theorem writtenDelay_eq_some {f : List UInt8} {d : ℤ} :
    writtenDelay f = some d ↔ numeral f = some d ∧ 0 ≤ d ∧ d ≤ longMax := by
  simp [writtenDelay, Option.filter_eq_some_iff]

theorem fieldValue_of_numeral {f : List UInt8} {v : ℤ} (h : numeral f = some v) :
    fieldValue f = some (max longMin (min longMax v)) := by
  have hf : f ≠ [] := by
    rintro rfl
    simp [numeral] at h
  rw [fieldValue, if_neg hf, h, Option.map_some]

theorem fieldDelay_eq_none_iff {f : List UInt8} :
    fieldDelay f = none ↔ f ≠ [] ∧ ∀ v, numeral f = some v → v < 0 := by
  constructor
  · intro h
    have hneg : ∀ v, fieldValue f = some v → v < 0 := by
      intro v hv
      by_contra hnonneg
      rw [fieldDelay_eq_some.mpr ⟨hv, not_lt.mp hnonneg⟩] at h
      simp at h
    refine ⟨?_, fun v hv => ?_⟩
    · rintro rfl
      exact absurd (hneg 0 rfl) (lt_irrefl 0)
    · have hlt := hneg _ (fieldValue_of_numeral hv)
      simp only [longMin, longMax] at hlt
      omega
  · rintro ⟨hf, hneg⟩
    rw [Option.eq_none_iff_forall_ne_some]
    intro d hd
    obtain ⟨hvalue, hnonneg⟩ := fieldDelay_eq_some.mp hd
    rw [fieldValue, if_neg hf] at hvalue
    obtain ⟨v, hv, hvd⟩ := Option.map_eq_some_iff.mp hvalue
    have hlt := hneg v hv
    simp only [longMin, longMax] at hvd
    omega

/-- A field that is played is played as written unless it is empty or too large. -/
theorem writtenDelay_eq_some_iff {f : List UInt8} {d : ℤ} (hd : fieldDelay f = some d) :
    writtenDelay f = some d ↔ f ≠ [] ∧ ∀ v, numeral f = some v → v ≤ longMax := by
  obtain ⟨hvalue, hnonneg⟩ := fieldDelay_eq_some.mp hd
  rw [writtenDelay_eq_some]
  constructor
  · rintro ⟨hnum, -, hle⟩
    refine ⟨?_, fun v hv => ?_⟩
    · rintro rfl
      simp [numeral] at hnum
    · rw [hnum, Option.some.injEq] at hv
      exact hv ▸ hle
  · rintro ⟨hf, hle⟩
    rw [fieldValue, if_neg hf] at hvalue
    obtain ⟨v, hv, hvd⟩ := Option.map_eq_some_iff.mp hvalue
    have hvle := hle v hv
    have heq : v = d := by
      simp only [longMin, longMax] at hvd hvle
      omega
    exact ⟨heq ▸ hv, hnonneg, heq ▸ hvle⟩

example : fieldDelay [57, 57, 57, 57, 57, 57, 57, 57, 57, 57] = some 2147483647 ∧
    writtenDelay [57, 57, 57, 57, 57, 57, 57, 57, 57, 57] = none := by decide

theorem written_iff {t : List UInt8} :
    Written t ↔ ∀ f d, (fields t).head? = some f → fieldDelay f = some d →
      writtenDelay f = some d := by
  constructor
  · intro h f d hf hd
    exact (writtenDelay_eq_some_iff hd).mpr (h f hf)
  · intro h f hf
    cases hd : fieldDelay f with
    | none =>
      obtain ⟨hne, hneg⟩ := fieldDelay_eq_none_iff.mp hd
      refine ⟨hne, fun v hv => (hneg v hv).le.trans (by decide)⟩
    | some d => exact (writtenDelay_eq_some_iff hd).mp (h f d hf hd)

theorem unplayable_iff {t : List UInt8} :
    Unplayable t ↔ ∀ f, (fields t).head? = some f → fieldDelay f = none :=
  forall₂_congr fun _ _ => fieldDelay_eq_none_iff.symm

/-- A text as it should be can be played only from a field in which a delay is written. -/
theorem fieldDelay_eq_none_of_noDelay {t f : List UInt8} (hwritten : Written t)
    (hno : NoDelay t) (hf : (fields t).head? = some f) : fieldDelay f = none := by
  rw [Option.eq_none_iff_forall_ne_some]
  intro d hd
  have hsome := written_iff.mp hwritten f d hf hd
  rw [hno f hf] at hsome
  simp at hsome

/-- The last field of a text, a colon after it apart. -/
def lastField (t : List UInt8) : List UInt8 :=
  (if t.getLast? = some 58 then t.dropLast else t).rtakeWhile (· ≠ 58)

/-- A text at whose end a field begins. -/
def FieldStart (pre : List UInt8) : Prop := pre = [] ∨ pre.getLast? = some 58

theorem rtakeWhile_of_fieldStart {pre f : List UInt8} (hpre : FieldStart pre) (hf : 58 ∉ f) :
    (pre ++ f).rtakeWhile (· ≠ 58) = f := by
  have hall : ∀ c ∈ f.reverse, (fun c : UInt8 => decide (c ≠ 58)) c = true := by
    intro c hc
    rw [List.mem_reverse] at hc
    simpa using ne_of_mem_of_not_mem hc hf
  rw [List.rtakeWhile, List.reverse_append, List.takeWhile_append_of_pos hall]
  rcases hpre with hpre | hpre
  · simp [hpre]
  · cases hrev : pre.reverse with
    | nil => simp
    | cons c cs =>
      have hc : c = 58 := by
        rw [← List.head?_reverse, hrev, List.head?_cons, Option.some.injEq] at hpre
        exact hpre
      simp [hc]

/-- The field a text ends with is the last one it has passed. -/
theorem lastField_eq {pre t f sep rest : List UInt8} (hpre : FieldStart pre)
    (h : FirstField t f sep rest) : lastField (pre ++ f ++ sep) = f := by
  rcases h.sep with hsep | ⟨hsep, -, hne⟩
  · rw [lastField, hsep, if_pos (by simp), List.dropLast_concat]
    exact rtakeWhile_of_fieldStart hpre h.clean
  · have hlast : (pre ++ f).getLast? ≠ some 58 := by
      rw [List.getLast?_append_of_ne_nil _ hne]
      intro hlast
      exact h.clean (List.mem_of_getLast? hlast)
    rw [lastField, hsep, List.append_nil, if_neg hlast]
    exact rtakeWhile_of_fieldStart hpre h.clean

/-! ### Playing written delays -/

namespace Blinky

/-- The text from the cursor to the first NUL. -/
def textAtCursor (b : Blinky) : Option (List UInt8) :=
  b.currPattern.bind fun p => (b.heap.block p.block).map fun s =>
    (s.bytes.drop p.offset).takeWhile (· ≠ 0)

/-- The field the cursor has passed last. -/
def fieldPassed (b : Blinky) : Option (List UInt8) :=
  b.currPattern.bind fun p => (b.heap.block p.block).map fun s =>
    lastField (s.bytes.take p.offset)

end Blinky

namespace Player

/-- The calls made between two players. -/
def callsBetween (p q : Player) : List BlinkyCall :=
  q.blinky.log.take (q.blinky.log.length - p.blinky.log.length)

/-- What an input asks of the heap and the event system is granted. -/
def Grants (p : Player) : PlayerInput → Prop
  | .start env _ _ => env.Granted ∧ (p.blinky.tasklet < 0 → ¬ env.handlerCreate < 0)
  | .patternTimer env => env.sendAfter .patternTimer = true ∧ .patternTimer ∈ p.blinky.pending

/-- What an input comes to is as it should be: a pattern that is started, and the text
at the cursor of a playback that is going on, do not start with a field that is empty or
too large; and the text at the cursor of a playback that has stopped does not start with
a field that can be played. -/
def ReadsWritten (p : Player) : PlayerInput → Prop
  | .start _ pattern _ => Written (pattern.takeWhile (· ≠ 0))
  | .patternTimer _ => ∀ t, p.blinky.textAtCursor = some t →
      (p.blinky.state = .started → Written t) ∧ (p.blinky.state = .idle → Unplayable t)

/-- No delay is written in the field an input comes to: the first one of a pattern that is
started, or the one at the cursor of a pattern that is played once. -/
def ReadsNoDelay (p : Player) : PlayerInput → Prop
  | .start _ pattern _ => NoDelay (pattern.takeWhile (· ≠ 0))
  | .patternTimer _ => p.blinky.restart = false ∧
      ∃ t, p.blinky.textAtCursor = some t ∧ NoDelay t

end Player

/-- What is required of a step: a delay it requests is the one written in the field the
cursor has passed; a field in which no delay is written stops the playback, and nothing is
requested; and a timer that finds the playback stopped requests nothing either. -/
structure PlaysWritten (p : Player) (i : PlayerInput) : Prop where
  written : ∀ q d, p.step i = .ok q → .sendAfter .patternTimer d ∈ p.callsBetween q →
    ∃ f, q.blinky.fieldPassed = some f ∧ writtenDelay f = some d
  rejected : ∀ q, p.ReadsNoDelay i → p.step i = .ok q →
    q.blinky.state = .idle ∧ ∀ d, .sendAfter .patternTimer d ∉ p.callsBetween q
  stopped : ∀ env q d, i = .patternTimer env → p.blinky.state = .idle → p.step i = .ok q →
    .sendAfter .patternTimer d ∉ p.callsBetween q

/-! ### The playback -/

namespace Playback

variable {v w : Playback}

/-- The text from the cursor to the first NUL. -/
def rest (v : Playback) : List UInt8 := (v.text.bytes.drop v.offset).takeWhile (· ≠ 0)

/-- The text before the cursor. -/
def passed (v : Playback) : List UInt8 := v.text.bytes.take v.offset

theorem nul_not_mem_rest (v : Playback) : 0 ∉ v.rest := by
  intro h
  simpa using List.mem_takeWhile_imp h

theorem exists_drop_eq (v : Playback) :
    ∃ u, v.text.bytes.drop v.offset = v.rest ++ 0 :: u := by
  have hnul : (0 : UInt8) ∈ v.text.bytes.drop v.offset :=
    List.mem_of_getLast? (v.text.getLast?_drop v.inside)
  obtain ⟨s, u, heq, hs⟩ := List.eq_append_cons_of_mem hnul
  refine ⟨u, ?_⟩
  have hall : s.takeWhile (fun c : UInt8 => decide (c ≠ 0)) = s := by
    rw [List.takeWhile_eq_self_iff]
    intro c hc
    simpa using ne_of_mem_of_not_mem hc hs
  have hrest : v.rest = s := by
    rw [rest, heq, takeWhile_append_cons (by decide), hall]
  rw [hrest, heq]

/-- Reading a field that stands for a delay. -/
theorem advance_of_firstField {f sep rest' : List UInt8} {d : ℤ}
    (h : FirstField v.rest f sep rest') (hd : fieldDelay f = some d) :
    v.read = d ∧ v.advance.passed = v.passed ++ f ++ sep ∧ v.advance.rest = rest' := by
  obtain ⟨u, hu⟩ := v.exists_drop_eq
  have hnext := h.nextInt_of_fieldDelay v.nul_not_mem_rest u hd
  rw [← hu] at hnext
  have hdrop : v.text.bytes.drop v.offset = (f ++ sep) ++ (rest' ++ 0 :: u) := by
    rw [hu, h.eq, List.append_assoc (f ++ sep)]
  have hoffset : v.advance.offset = v.offset + (f ++ sep).length := by
    show v.offset + (nextInt (v.text.bytes.drop v.offset)).2 = _
    rw [hnext]
  have hclean : ∀ c ∈ rest', decide (c ≠ 0) = true := by
    intro c hc
    have hmem : c ∈ v.rest := by simp [h.eq, hc]
    simpa using ne_of_mem_of_not_mem hmem v.nul_not_mem_rest
  refine ⟨congrArg Prod.fst hnext, ?_, ?_⟩
  · show v.text.bytes.take v.advance.offset = _
    rw [hoffset, List.take_add, hdrop, List.take_left, passed, List.append_assoc]
  · show (v.text.bytes.drop v.advance.offset).takeWhile (· ≠ 0) = _
    rw [hoffset, ← List.drop_drop, hdrop, List.drop_left, takeWhile_append_cons (by decide),
      List.takeWhile_eq_self_iff]
    exact hclean

/-- Reading where no field can be played. -/
theorem read_neg_of_unplayable (h : Unplayable v.rest) : v.read < 0 := by
  obtain ⟨u, hu⟩ := v.exists_drop_eq
  rw [read, hu]
  apply nextInt_neg_of_delays_eq_nil v.nul_not_mem_rest
  by_cases hrest : v.rest = []
  · rw [hrest, delays_nil]
  · obtain ⟨f, sep, rest', hf⟩ := exists_firstField hrest
    refine delays_of_fieldDelay_eq_none hf.fields_eq (unplayable_iff.mp h f ?_)
    rw [hf.fields_eq, List.head?_cons]

/-- Reading where the first field can be played. -/
theorem exists_firstField_of_read (h : ¬ v.read < 0) :
    ∃ f sep rest' d, FirstField v.rest f sep rest' ∧ (fields v.rest).head? = some f ∧
      fieldDelay f = some d := by
  have hplayable : ¬ Unplayable v.rest := fun hno => h (read_neg_of_unplayable hno)
  by_cases hrest : v.rest = []
  · rw [hrest] at hplayable
    exact absurd (by simp [Unplayable]) hplayable
  · obtain ⟨f, sep, rest', hf⟩ := exists_firstField hrest
    have hhead : (fields v.rest).head? = some f := by rw [hf.fields_eq, List.head?_cons]
    cases hd : fieldDelay f with
    | some d => exact ⟨f, sep, rest', d, hf, hhead, hd⟩
    | none =>
      refine absurd (unplayable_iff.mpr fun g hg => ?_) hplayable
      rw [hhead, Option.some.injEq] at hg
      exact hg ▸ hd

/-- Reading a text as it should be, in whose first field no delay is written. -/
theorem read_neg_of_noDelay (hwritten : Written v.rest) (hno : NoDelay v.rest) : v.read < 0 :=
  read_neg_of_unplayable (unplayable_iff.mpr fun _ hf =>
    fieldDelay_eq_none_of_noDelay hwritten hno hf)

/-- Between two playbacks nothing has been requested, or one delay that is written in the
field just passed. -/
def OnlyWritten (v w : Playback) : Prop :=
  w.log = v.log ∨ ∃ d, w.log = .toggleLed :: .sendAfter .patternTimer d :: v.log ∧
    writtenDelay (lastField w.passed) = some d

/-- What is known of a playback as long as all it came to was as it should be. -/
structure Sound (v : Playback) : Prop where
  /-- The cursor stands where a field begins, or at the end. -/
  fieldStart : v.state = .started → v.rest ≠ [] → FieldStart v.passed
  /-- The pattern starts as it should. -/
  first : v.state = .started → Written v.rewind.rest
  /-- Playing the pattern again is of no use. -/
  rejected : v.state = .idle → v.restart = true → v.rewind.read < 0

/-- A step that requests a delay, at the beginning of a field. -/
theorem runStep_sound (hstart : v.rest ≠ [] → FieldStart v.passed) (hwritten : Written v.rest)
    (hfirst : Written v.rewind.rest) (h : v.runStep.1 = true) :
    v.runStep.2.Sound ∧ v.OnlyWritten v.runStep.2 := by
  have hread := (runStep_fst v).mp h
  obtain ⟨f, sep, rest', d, hf, hhead, hd⟩ := exists_firstField_of_read hread
  obtain ⟨hreadd, hpassed, hrest⟩ := advance_of_firstField hf hd
  have hbegin : FieldStart v.passed := by
    apply hstart
    intro hnil
    rw [hnil] at hhead
    simp at hhead
  rw [runStep_of_nonneg hread]
  refine ⟨⟨fun _ hne => ?_, fun _ => hfirst, ?_⟩, Or.inr ⟨d, ?_, ?_⟩⟩
  · -- the field read is followed by a colon, since something follows it
    show FieldStart v.advance.passed
    rw [hpassed]
    rcases hf.sep with hsep | ⟨-, hnil, -⟩
    · exact Or.inr (by simp [hsep])
    · exact absurd (hrest.trans hnil) hne
  · intro hidle
    cases hidle
  · rw [← hreadd]
  · show writtenDelay (lastField v.advance.passed) = some d
    rw [hpassed, lastField_eq hbegin hf]
    exact written_iff.mp hwritten f d hhead hd

/-- A step that requests nothing, where playing the pattern again is of no use. -/
theorem runStep_sound_of_neg (h : v.read < 0) (hrejected : v.restart = true → v.rewind.read < 0) :
    v.runStep.2.Sound ∧ v.runStep.2.log = v.log := by
  rw [runStep_of_neg h]
  refine ⟨⟨?_, ?_, fun _ => hrejected⟩, rfl⟩
  · intro hstate
    cases hstate
  · intro hstate
    cases hstate

/-- A timer that finds the playback going on. -/
theorem handlePatternEvent_sound (hv : v.Sound) (hstate : v.state = .started)
    (hwritten : v.runStep.1 = true → Written v.rest) :
    v.handlePatternEvent.Sound ∧ v.OnlyWritten v.handlePatternEvent := by
  cases hstep : v.runStep.1 with
  | true =>
    rw [handlePatternEvent_of_success hstep]
    exact runStep_sound (hv.fieldStart hstate) (hwritten hstep) (hv.first hstate) hstep
  | false =>
    have hread : v.read < 0 := by
      by_contra hpos
      rw [(runStep_fst v).mpr hpos] at hstep
      exact absurd hstep (by decide)
    cases hr : v.restart with
    | false =>
      rw [handlePatternEvent_of_not_restart hr]
      obtain ⟨hsound, hlog⟩ := runStep_sound_of_neg hread (by simp [hr])
      exact ⟨hsound, Or.inl hlog⟩
    | true =>
      rw [handlePatternEvent_of_restart hstep hr, runStep_of_neg hread]
      -- the pattern is played from its start, which is as it should be
      set u : Playback := rewind { v.advance with state := .idle } with hu
      by_cases hneg : u.read < 0
      · obtain ⟨hsound, hlog⟩ := runStep_sound_of_neg hneg (fun _ => hneg)
        exact ⟨hsound, Or.inl hlog⟩
      · exact runStep_sound (v := u) (fun _ => Or.inl rfl) (hv.first hstate) (hv.first hstate)
          ((runStep_fst u).mpr hneg)

/-- A timer that finds the playback stopped. -/
theorem handlePatternEvent_stopped (hv : v.Sound) (hstate : v.state = .idle)
    (hread : v.read < 0) :
    v.handlePatternEvent.Sound ∧ v.handlePatternEvent.log = v.log := by
  have hstep : v.runStep.1 = false := by rw [runStep_of_neg hread]
  cases hr : v.restart with
  | false =>
    rw [handlePatternEvent_of_not_restart hr]
    exact runStep_sound_of_neg hread (by simp [hr])
  | true =>
    rw [handlePatternEvent_of_restart hstep hr, runStep_of_neg hread]
    have hneg := hv.rejected hstate hr
    exact runStep_sound_of_neg (v := rewind { v.advance with state := .idle }) hneg
      (fun _ => hneg)

end Playback

/-! ### The player -/

section Player

variable {p q : Player} {b : Blinky} {v : Playback} {env : Env} {pattern : List UInt8} {r : Bool}

theorem Plays.textAtCursor (h : Plays b v) : b.textAtCursor = some v.rest := by
  obtain ⟨a, -, hblock, hcurr⟩ := h.buffer
  simp only [Blinky.textAtCursor, hcurr, hblock, Option.bind_some, Option.map_some]
  rfl

theorem Plays.fieldPassed (h : Plays b v) : b.fieldPassed = some (lastField v.passed) := by
  obtain ⟨a, -, hblock, hcurr⟩ := h.buffer
  simp only [Blinky.fieldPassed, hcurr, hblock, Option.bind_some, Option.map_some]
  rfl

theorem Player.callsBetween_of_log {cs : List BlinkyCall}
    (h : q.blinky.log = cs ++ p.blinky.log) : p.callsBetween q = cs := by
  rw [callsBetween, h, List.length_append, Nat.add_sub_cancel, List.take_left]

/-- A start that returns true has been granted all it has asked for. -/
theorem Blinky.granted_of_start {b' : Blinky} (h : b.start env pattern r = .ok (true, b')) :
    env.Granted ∧ (b.tasklet < 0 → ¬ env.handlerCreate < 0) := by
  have hmalloc : env.malloc = true := by
    by_contra hno
    have hfalse := (start_spec_of_malloc_fails (by simpa using hno) h).1
    exact absurd hfalse (by decide)
  have h' := h
  rw [start, bind_eq_ok] at h'
  obtain ⟨b₁, hcreate, -⟩ := h'
  refine ⟨⟨hmalloc, ?_⟩, ?_⟩
  · obtain ⟨b₂, heq, hplays⟩ := start_eq hcreate hmalloc pattern r
    rw [heq] at h
    rcases runStep_spec hplays env with ⟨-, -, herr⟩ | ⟨hsent, b₃, hok, -⟩
    · rw [herr] at h
      simp at h
    · rw [hok, Except.ok.injEq, Prod.mk.injEq] at h
      exact hsent h.1
  · intro htasklet hno
    rw [createTasklet, if_pos htasklet, if_pos hno] at hcreate
    simp at hcreate

theorem Blinky.handlePatternEvent_of_cursor_null (env : Env) (h : b.currPattern = none) :
    b.handlePatternEvent env = .error .nullDereference := by
  simp [handlePatternEvent, runStep, getNextInt, h]

/-- A new pattern is at its start. -/
theorem rest_ofPattern (n : ℕ) (log : List BlinkyCall) :
    (Playback.ofPattern pattern r n log).rest = pattern.takeWhile (· ≠ 0) :=
  takeWhile_append_cons (by decide) pattern []

/-- What is known of a player as long as all it came to was as it should be. -/
def Careful (p : Player) : Prop :=
  p.blinky.currPattern = none ∨ ∃ v, Plays p.blinky v ∧ v.Sound

/-- Between two players nothing has been requested, or one delay that is written in the
field just passed. -/
def OnlyWritten (p q : Player) : Prop :=
  p.callsBetween q = [] ∨ ∃ d f, p.callsBetween q = [.toggleLed, .sendAfter .patternTimer d] ∧
    q.blinky.fieldPassed = some f ∧ writtenDelay f = some d

theorem onlyWritten_of_playback {w : Playback} (hq : Plays q.blinky w)
    (hlog : v.log = p.blinky.log) (h : v.OnlyWritten w) : OnlyWritten p q := by
  rcases h with h | ⟨d, h, hd⟩
  · left
    apply Player.callsBetween_of_log
    rw [hq.log, h, hlog, List.nil_append]
  · right
    refine ⟨d, _, Player.callsBetween_of_log ?_, hq.fieldPassed, hd⟩
    rw [hq.log, h, hlog]
    rfl

/-- One start. -/
theorem start_careful
    (hC : p.Grants (.start env pattern r) → p.ReadsWritten (.start env pattern r))
    (h : p.step (.start env pattern r) = .ok q) : Careful q ∧ OnlyWritten p q := by
  obtain ⟨ok, b, hstart, heq⟩ := Player.step_start_spec h
  subst heq
  cases hmalloc : env.malloc with
  | false =>
    obtain ⟨-, hcurr, hlog⟩ := Blinky.start_spec_of_malloc_fails hmalloc hstart
    exact ⟨Or.inl hcurr, Or.inl (Player.callsBetween_of_log hlog)⟩
  | true =>
    obtain ⟨hok, hb⟩ := Blinky.start_spec hmalloc hstart
    set v₀ := Playback.ofPattern pattern r (p.blinky.pendingCount .patternTimer) p.blinky.log
      with hv₀
    by_cases hread : v₀.read < 0
    · obtain ⟨hsound, hlog⟩ := Playback.runStep_sound_of_neg hread (fun _ => hread)
      exact ⟨Or.inr ⟨_, hb, hsound⟩, onlyWritten_of_playback (v := v₀) hb rfl (Or.inl hlog)⟩
    · have hsuccess := (Playback.runStep_fst v₀).mpr hread
      rw [hsuccess] at hok
      subst hok
      have hwritten : Written v₀.rest := by
        rw [hv₀, rest_ofPattern]
        exact hC (Blinky.granted_of_start hstart)
      obtain ⟨hsound, honly⟩ := Playback.runStep_sound (v := v₀) (fun _ => Or.inl rfl) hwritten
        hwritten hsuccess
      exact ⟨Or.inr ⟨_, hb, hsound⟩, onlyWritten_of_playback hb rfl honly⟩

/-- One timer. -/
theorem timer_careful (hp : Careful p)
    (hC : p.Grants (.patternTimer env) → p.ReadsWritten (.patternTimer env))
    (h : p.step (.patternTimer env) = .ok q) :
    Careful q ∧ OnlyWritten p q ∧ (p.blinky.state = .idle → p.callsBetween q = []) := by
  obtain ⟨hmem, b, hb, heq⟩ := Player.step_patternTimer_spec h
  subst heq
  rcases hp with hnull | ⟨v, hv, hsound⟩
  · have herr := Blinky.handlePatternEvent_of_cursor_null env
      (b := { p.blinky with pending := p.blinky.pending.erase .patternTimer }) hnull
    rw [herr] at hb
    simp at hb
  · obtain ⟨hsent, hc⟩ := Blinky.plays_of_handlePatternEvent hv.deliver hb
    set w : Playback := { v with due := v.due - 1 } with hw
    have hreads : w.runStep.1 = true →
        (p.blinky.state = .started → Written w.rest) ∧
          (p.blinky.state = .idle → Unplayable w.rest) :=
      fun hstep => hC ⟨hsent hstep, hmem⟩ _ hv.textAtCursor
    have hwsound : w.Sound := ⟨hsound.fieldStart, hsound.first, hsound.rejected⟩
    cases hstate : p.blinky.state with
    | started =>
      obtain ⟨hsound', honly⟩ := Playback.handlePatternEvent_sound hwsound
        (hv.state.symm.trans hstate) (fun hstep => (hreads hstep).1 hstate)
      refine ⟨Or.inr ⟨_, hc, hsound'⟩, onlyWritten_of_playback hc hv.log.symm honly, ?_⟩
      intro hidle
      cases hidle
    | idle =>
      have hread : w.read < 0 := by
        by_contra hpos
        exact hpos (Playback.read_neg_of_unplayable
          ((hreads ((Playback.runStep_fst w).mpr hpos)).2 hstate))
      obtain ⟨hsound', hlog⟩ := Playback.handlePatternEvent_stopped hwsound
        (hv.state.symm.trans hstate) hread
      have hnone : p.callsBetween { p with blinky := b } = [] := by
        apply Player.callsBetween_of_log
        rw [hc.log, hlog, List.nil_append]
        exact hv.log.symm
      exact ⟨Or.inr ⟨_, hc, hsound'⟩, Or.inl hnone, fun _ => hnone⟩

/-- A step of the playback that reads no delay. -/
theorem rejected_of_read_neg (hq : Plays q.blinky v.runStep.2) (hlog : v.log = p.blinky.log)
    (hread : v.read < 0) :
    q.blinky.state = .idle ∧ ∀ d, .sendAfter .patternTimer d ∉ p.callsBetween q := by
  rw [Playback.runStep_of_neg hread] at hq
  have hnone : p.callsBetween q = [] := Player.callsBetween_of_log (hq.log.trans hlog)
  exact ⟨hq.state, by simp [hnone]⟩

/-- One start of a pattern in whose first field no delay is written. -/
theorem start_rejected
    (hC : p.Grants (.start env pattern r) → p.ReadsWritten (.start env pattern r))
    (hno : p.ReadsNoDelay (.start env pattern r)) (h : p.step (.start env pattern r) = .ok q) :
    q.blinky.state = .idle ∧ ∀ d, .sendAfter .patternTimer d ∉ p.callsBetween q := by
  obtain ⟨ok, b, hstart, heq⟩ := Player.step_start_spec h
  subst heq
  cases hmalloc : env.malloc with
  | false =>
    obtain ⟨-, -, hlog⟩ := Blinky.start_spec_of_malloc_fails hmalloc hstart
    have hnone : p.callsBetween { blinky := b, lastStart := some ok } = [] :=
      Player.callsBetween_of_log hlog
    exact ⟨Blinky.start_idle_of_malloc_fails hmalloc hstart, by simp [hnone]⟩
  | true =>
    obtain ⟨hok, hb⟩ := Blinky.start_spec hmalloc hstart
    set v₀ := Playback.ofPattern pattern r (p.blinky.pendingCount .patternTimer) p.blinky.log
      with hv₀
    refine rejected_of_read_neg (v := v₀) hb rfl ?_
    by_contra hread
    -- what is played has been granted, so that the text is as it should be
    rw [(Playback.runStep_fst v₀).mpr hread] at hok
    subst hok
    have hrest : v₀.rest = pattern.takeWhile (· ≠ 0) := by rw [hv₀, rest_ofPattern]
    refine hread (Playback.read_neg_of_noDelay ?_ ?_)
    · rw [hrest]
      exact hC (Blinky.granted_of_start hstart)
    · rw [hrest]
      exact hno

/-- One timer that comes to such a field. -/
theorem timer_rejected (hp : Careful p)
    (hC : p.Grants (.patternTimer env) → p.ReadsWritten (.patternTimer env))
    (hno : p.ReadsNoDelay (.patternTimer env)) (h : p.step (.patternTimer env) = .ok q) :
    q.blinky.state = .idle ∧ ∀ d, .sendAfter .patternTimer d ∉ p.callsBetween q := by
  obtain ⟨hrestart, t, ht, hno⟩ := hno
  obtain ⟨hmem, b, hb, heq⟩ := Player.step_patternTimer_spec h
  subst heq
  rcases hp with hnull | ⟨v, hv, -⟩
  · simp [Blinky.textAtCursor, hnull] at ht
  · rw [hv.textAtCursor, Option.some.injEq] at ht
    subst ht
    obtain ⟨hsent, hc⟩ := Blinky.plays_of_handlePatternEvent hv.deliver hb
    set w : Playback := { v with due := v.due - 1 } with hw
    have hwr : w.restart = false := hv.restart.symm.trans hrestart
    rw [Playback.handlePatternEvent_of_not_restart hwr] at hc
    refine rejected_of_read_neg (v := w) hc hv.log.symm ?_
    by_contra hread
    have hreads := hC ⟨hsent ((Playback.runStep_fst w).mpr hread), hmem⟩ _ hv.textAtCursor
    cases hstate : p.blinky.state with
    | started => exact hread (Playback.read_neg_of_noDelay (hreads.1 hstate) hno)
    | idle => exact hread (Playback.read_neg_of_unplayable (hreads.2 hstate))

theorem OnlyWritten.written (h : OnlyWritten p q) {d : ℤ}
    (hd : .sendAfter .patternTimer d ∈ p.callsBetween q) :
    ∃ f, q.blinky.fieldPassed = some f ∧ writtenDelay f = some d := by
  rcases h with h | ⟨e, f, h, hf, he⟩
  · rw [h] at hd
    simp at hd
  · rw [h] at hd
    have hde : d = e := by simpa using hd
    exact ⟨f, hf, hde ▸ he⟩

theorem step_careful {i : PlayerInput} (hp : Careful p) (hC : p.Grants i → p.ReadsWritten i)
    (h : p.step i = .ok q) : Careful q := by
  cases i with
  | start env pattern r => exact (start_careful hC h).1
  | patternTimer env => exact (timer_careful hp hC h).1

theorem playsWritten_of_readsWritten {i : PlayerInput} (hp : Careful p)
    (hC : p.Grants i → p.ReadsWritten i) : PlaysWritten p i := by
  refine ⟨?_, ?_, ?_⟩
  · intro q d h hd
    cases i with
    | start env pattern r => exact (start_careful hC h).2.written hd
    | patternTimer env => exact (timer_careful hp hC h).2.1.written hd
  · intro q hno h
    cases i with
    | start env pattern r => exact start_rejected hC hno h
    | patternTimer env => exact timer_rejected hp hC hno h
  · intro env q d hi hidle h
    subst hi
    rw [(timer_careful hp hC h).2.2 hidle]
    simp

/-- A step that reads a field at its beginning and requests it as it is written. -/
theorem written_of_playsWritten {f sep rest' : List UInt8} {d : ℤ} {i : PlayerInput}
    (hP : PlaysWritten p i) (hq : p.step i = .ok q)
    (hplays : Plays q.blinky v.runStep.2) (hlog : v.log = p.blinky.log)
    (hstart : v.rest ≠ [] → FieldStart v.passed) (hf : FirstField v.rest f sep rest')
    (hd : fieldDelay f = some d) : writtenDelay f = some d := by
  obtain ⟨hread, hpassed, -⟩ := Playback.advance_of_firstField hf hd
  have hnonneg : ¬ v.read < 0 := by
    rw [hread]
    exact not_lt.mpr (fieldDelay_eq_some.mp hd).2
  rw [Playback.runStep_of_nonneg hnonneg] at hplays
  have hcalls : p.callsBetween q = [.toggleLed, .sendAfter .patternTimer d] := by
    apply Player.callsBetween_of_log
    rw [hplays.log, ← hlog, ← hread]
    rfl
  obtain ⟨g, hg, hgd⟩ := hP.written q d hq (by simp [hcalls])
  have hne : v.rest ≠ [] := by
    intro hnil
    have hfields := hf.fields_eq
    rw [hnil, fields_nil] at hfields
    simp at hfields
  have hfg : lastField v.advance.passed = g := by
    rw [hplays.fieldPassed, Option.some.injEq] at hg
    exact hg
  rw [hpassed, lastField_eq (hstart hne) hf] at hfg
  rw [hfg]
  exact hgd

theorem exists_firstField_of_head {t f : List UInt8} (h : (fields t).head? = some f) :
    ∃ sep rest, FirstField t f sep rest := by
  have ht : t ≠ [] := by
    rintro rfl
    simp at h
  obtain ⟨g, sep, rest, hg⟩ := exists_firstField ht
  rw [hg.fields_eq, List.head?_cons, Option.some.injEq] at h
  exact ⟨sep, rest, h ▸ hg⟩

/-- Where a step is as it should be, so is what it came to. -/
theorem readsWritten_of_playsWritten {i : PlayerInput} (hp : Careful p) (hP : PlaysWritten p i)
    (hgrants : p.Grants i) : p.ReadsWritten i := by
  cases i with
  | start env pattern r =>
    obtain ⟨⟨hmalloc, hsend⟩, hcreate⟩ := hgrants
    obtain ⟨ok, b, hok⟩ := Blinky.start_isOk hcreate hmalloc hsend pattern r
    have hq : p.step (.start env pattern r) = .ok { blinky := b, lastStart := some ok } := by
      simp [Player.step, hok]
    refine written_iff.mpr fun f d hhead hd => ?_
    obtain ⟨sep, rest', hf⟩ := exists_firstField_of_head hhead
    rw [← rest_ofPattern (r := r) (p.blinky.pendingCount .patternTimer) p.blinky.log] at hf
    exact written_of_playsWritten hP hq (Blinky.start_spec hmalloc hok).2 rfl
      (fun _ => Or.inl rfl) hf hd
  | patternTimer env =>
    obtain ⟨hsend, hmem⟩ := hgrants
    intro t ht
    rcases hp with hnull | ⟨v, hv, hsound⟩
    · simp [Blinky.textAtCursor, hnull] at ht
    · rw [hv.textAtCursor, Option.some.injEq] at ht
      subst ht
      rcases Blinky.handlePatternEvent_spec hv.deliver env with ⟨hno, -⟩ | ⟨-, c, hok, hc⟩
      · rw [hsend] at hno
        exact absurd hno (by decide)
      · have hq : p.step (.patternTimer env) = .ok { p with blinky := c } := by
          simp [Player.step, hmem, hok]
        set w : Playback := { v with due := v.due - 1 } with hw
        -- a field that stands for a delay is played, whatever the state
        have hplayed : ∀ {f sep rest' : List UInt8} {d : ℤ}, FirstField w.rest f sep rest' →
            fieldDelay f = some d → ¬ w.read < 0 ∧ Plays c w.runStep.2 := by
          intro f sep rest' d hf hd
          have hread := (Playback.advance_of_firstField hf hd).1
          have hnonneg : ¬ w.read < 0 := by
            rw [hread]
            exact not_lt.mpr (fieldDelay_eq_some.mp hd).2
          rw [Playback.handlePatternEvent_of_success ((Playback.runStep_fst w).mpr hnonneg)] at hc
          exact ⟨hnonneg, hc⟩
        refine ⟨?_, ?_⟩
        · intro hstate
          refine written_iff.mpr fun f d hhead hd => ?_
          obtain ⟨sep, rest', hf⟩ := exists_firstField_of_head hhead
          exact written_of_playsWritten (v := w) hP hq (hplayed hf hd).2 hv.log.symm
            (hsound.fieldStart (hv.state.symm.trans hstate)) hf hd
        · intro hstate
          refine unplayable_iff.mpr fun f hhead => ?_
          obtain ⟨sep, rest', hf⟩ := exists_firstField_of_head hhead
          cases hd : fieldDelay f with
          | none => rfl
          | some d =>
            obtain ⟨hnonneg, hplays⟩ := hplayed hf hd
            rw [Playback.runStep_of_nonneg hnonneg] at hplays
            have hcalls : p.callsBetween { p with blinky := c } =
                [.toggleLed, .sendAfter .patternTimer w.read] := by
              apply Player.callsBetween_of_log
              rw [hplays.log, ← hv.log.symm]
              rfl
            exact absurd (by simp [hcalls]) (hP.stopped env _ w.read rfl hstate hq)

end Player

/-- **Only delays that are written in the pattern are played, and a field in which none is
written stops the playback, exactly when, wherever a request is granted, no field that is
come to is empty or too large, and no timer that finds the playback stopped comes to a
field that can be played.** -/
theorem playsWritten_iff (is : List PlayerInput) :
    (EachStep Player.step {} is fun _ p i => PlaysWritten p i) ↔
      EachStep Player.step {} is fun _ p i => p.Grants i → p.ReadsWritten i := by
  have hfresh : Careful {} := Or.inl rfl
  refine eachStep_iff (fun _ p => Careful p) hfresh ?_ ?_ ?_
  · intro pre p i q _ hp hC h
    exact step_careful hp hC h
  · intro pre p i _ hp hC
    exact playsWritten_of_readsWritten hp hC
  · intro pre p i _ hp hP hgrants
    exact readsWritten_of_playsWritten hp hP hgrants

/-- The empty field of `:5` is played as `0`. -/
theorem not_playsWritten_empty_field :
    ¬ EachStep Player.step {} [.start {} [58, 53] false] fun _ p i => PlaysWritten p i := by
  intro h
  have hstep := h [] (.start {} [58, 53] false) {} List.prefix_rfl rfl
  obtain ⟨f, hf, hd⟩ := hstep.written _ 0 rfl (by decide)
  have hempty : f = [] := (Option.some.inj hf).symm
  subst hempty
  simp [writtenDelay, numeral] at hd

end PelionClientLite
