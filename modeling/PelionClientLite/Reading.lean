import PelionClientLite.Lib.Numeral
import PelionClientLite.Playback

/-!
# What a pattern says

A pattern is read here without a cursor: it is split at its colons, and each field
says which delay it stands for, or none.  `get_next_int` reads the same fields one
by one, and the two agree as long as every field read stands for a delay.

## Main definitions

* `fields` — the fields of a pattern.
* `fieldDelay` — the delay a field stands for.
* `delays` — the delays of a pattern, up to the first field that stands for none.
* `FirstField` — a text, taken apart after its first field.

## Main results

* `FirstField.nextInt_of_fieldDelay`, `FirstField.nextInt_of_fieldDelay_eq_none` —
  **`get_next_int` reads the first field of what is left.**
* `field_eq_delays`, `field_delays_length` — the fields `get_next_int` comes to are
  the delays of the pattern, and after the last of them it finds none.
-/

namespace PelionClientLite

open CLib

/-! ### Fields -/

/-- The fields of a pattern: what stands between its colons, but nothing for an empty
text at its end. -/
def fields (pattern : List UInt8) : List (List UInt8) :=
  if (pattern.splitOn 58).getLast? = some [] then (pattern.splitOn 58).dropLast
  else pattern.splitOn 58

/-- What a field is converted to: `0` for an empty one, and for a numeral its value
within the limits of a `long`. -/
def fieldValue (f : List UInt8) : Option ℤ :=
  if f = [] then some 0 else (numeral f).map fun v => max longMin (min longMax v)

/-- The delay a field stands for, which is its value unless that is negative. -/
def fieldDelay (f : List UInt8) : Option ℤ := (fieldValue f).filter (0 ≤ ·)

/-- The delays of a pattern, up to the first field that stands for none. -/
def delays (pattern : List UInt8) : List ℤ :=
  (((fields pattern).map fieldDelay).takeWhile Option.isSome).filterMap id

@[simp] theorem fields_nil : fields [] = [] := by simp [fields]

theorem fields_of_not_mem {f : List UInt8} (hf : 58 ∉ f) (hne : f ≠ []) : fields f = [f] := by
  simp [fields, List.splitOn_eq_singleton hf, hne]

theorem fields_append_cons {f : List UInt8} (hf : 58 ∉ f) (t : List UInt8) :
    fields (f ++ 58 :: t) = f :: fields t := by
  have hne : t.splitOn 58 ≠ [] := List.splitOn_ne_nil 58 t
  have hsplit := List.splitOn_append_cons_self_of_not_mem hf t
  simp only [fields, hsplit, List.getLast?_cons_of_ne_nil hne, List.dropLast_cons_of_ne_nil hne]
  split <;> rfl

theorem fieldDelay_eq_some {f : List UInt8} {d : ℤ} :
    fieldDelay f = some d ↔ fieldValue f = some d ∧ 0 ≤ d := by
  simp [fieldDelay, Option.filter_eq_some_iff]

theorem delays_cons {f t : List UInt8} {pattern : List UInt8} {d : ℤ}
    (h : fields pattern = f :: fields t) (hd : fieldDelay f = some d) :
    delays pattern = d :: delays t := by
  simp [delays, h, hd]

theorem delays_of_fieldDelay_eq_none {f : List UInt8} {fs : List (List UInt8)}
    {pattern : List UInt8} (h : fields pattern = f :: fs) (hd : fieldDelay f = none) :
    delays pattern = [] := by
  simp [delays, h, hd]

@[simp] theorem delays_nil : delays [] = [] := by simp [delays]

/-! ### The first field -/

/-- The text `t` is the field `f`, then `sep`, which is a colon or else the end, and
then `rest`. -/
structure FirstField (t f sep rest : List UInt8) : Prop where
  eq : t = f ++ sep ++ rest
  clean : 58 ∉ f
  sep : sep = [58] ∨ (sep = [] ∧ rest = [] ∧ f ≠ [])

theorem exists_firstField {t : List UInt8} (ht : t ≠ []) :
    ∃ f sep rest, FirstField t f sep rest := by
  by_cases hmem : 58 ∈ t
  · obtain ⟨f, rest, heq, hf⟩ := List.eq_append_cons_of_mem hmem
    exact ⟨f, [58], rest, by simpa using heq, hf, Or.inl rfl⟩
  · exact ⟨t, [], [], by simp, hmem, Or.inr ⟨rfl, rfl, ht⟩⟩

namespace FirstField

variable {t f sep rest : List UInt8}

theorem fields_eq (h : FirstField t f sep rest) : fields t = f :: fields rest := by
  rcases h.sep with hsep | ⟨hsep, hrest, hne⟩
  · rw [h.eq, hsep, List.append_assoc, List.singleton_append, fields_append_cons h.clean]
  · rw [h.eq, hsep, hrest, List.append_nil, List.append_nil, fields_of_not_mem h.clean hne,
      fields_nil]

/-- After the field comes a delimiter, and then the rest or nothing. -/
theorem exists_delimiter (h : FirstField t f sep rest) (u : List UInt8) :
    ∃ c v, t ++ 0 :: u = f ++ c :: v ∧ (c = 58 ∧ sep = [58] ∨ c = 0 ∧ sep = []) := by
  rcases h.sep with hsep | ⟨hsep, hrest, -⟩
  · exact ⟨58, rest ++ 0 :: u, by simp [h.eq, hsep], Or.inl ⟨rfl, hsep⟩⟩
  · exact ⟨0, u, by simp [h.eq, hsep, hrest], Or.inr ⟨rfl, hsep⟩⟩

end FirstField

theorem delimiter_colon : Delimiter 58 := ⟨by decide, by decide, by decide⟩

/-- At the end of the text nothing is read. -/
theorem nextInt_nul (u : List UInt8) : nextInt (0 :: u) = (-1, 0) := by
  have hstrtol : strtol longMin longMax ([] ++ 0 :: u) = (0, 0) :=
    strtol_append_cons longMin longMax delimiter_nul [] u
  rw [List.nil_append] at hstrtol
  simp [nextInt, hstrtol]

theorem headD_append_cons_ne_nul {f v : List UInt8} {c : UInt8} (h0 : 0 ∉ f)
    (hc : f = [] → c ≠ 0) : (f ++ c :: v).headD 0 ≠ 0 := by
  cases f with
  | nil => simpa using hc rfl
  | cons d f =>
    intro hd
    exact h0 (by simpa [eq_comm] using Or.inl hd)

namespace FirstField

variable {t f sep rest : List UInt8}

/-- **A field with a value is read as that value**, and the cursor moves to the rest. -/
theorem nextInt_of_fieldValue (h : FirstField t f sep rest) (h0 : 0 ∉ t) (u : List UInt8) {v : ℤ}
    (hv : fieldValue f = some v) : nextInt (t ++ 0 :: u) = (v, (f ++ sep).length) := by
  obtain ⟨c, w, heq, hc⟩ := h.exists_delimiter u
  have h0f : 0 ∉ f := by
    intro hmem
    exact h0 (by simp [h.eq, hmem])
  have hdelim : Delimiter c := by
    rcases hc with ⟨rfl, -⟩ | ⟨rfl, -⟩
    · exact delimiter_colon
    · exact delimiter_nul
  have hhead : (f ++ c :: w).headD 0 ≠ 0 := by
    apply headD_append_cons_ne_nul h0f
    rcases hc with ⟨rfl, -⟩ | ⟨-, hsep⟩
    · intro _
      decide
    · intro hnil
      rcases h.sep with hsep' | ⟨-, -, hne⟩
      · simp [hsep'] at hsep
      · exact absurd hnil hne
  have hstrtol : strtol longMin longMax (f ++ c :: w) = (v, f.length) := by
    rw [strtol_append_cons longMin longMax hdelim]
    unfold fieldValue at hv
    split at hv
    · next hnil =>
      -- without a digit `strtol` converts nothing, to zero
      rw [Option.some.injEq] at hv
      subst hnil hv
      rfl
    · obtain ⟨w, hw, hv⟩ := Option.map_eq_some_iff.mp hv
      rw [strtol_of_numeral longMin longMax hw, hv]
  rw [heq]
  simp only [nextInt, hstrtol, List.drop_left, List.headD_cons, if_pos hhead]
  rcases hc with ⟨rfl, hsep⟩ | ⟨rfl, hsep⟩ <;> simp [hsep]

/-- A field without a value is read as `-1`. -/
theorem nextInt_of_fieldValue_eq_none (h : FirstField t f sep rest) (h0 : 0 ∉ t)
    (u : List UInt8) (hv : fieldValue f = none) : (nextInt (t ++ 0 :: u)).1 = -1 := by
  obtain ⟨c, w, heq, hc⟩ := h.exists_delimiter u
  have hne : f ≠ [] := by
    rintro rfl
    simp [fieldValue] at hv
  have hnum : numeral f = none := by simpa [fieldValue, hne] using hv
  have hdelim : Delimiter c := by
    rcases hc with ⟨rfl, -⟩ | ⟨rfl, -⟩
    · exact delimiter_colon
    · exact delimiter_nul
  -- `endptr` stays inside the field, where there is neither a colon nor a NUL
  have hlt : (strtol longMin longMax (f ++ c :: w)).2 < f.length := by
    rw [strtol_append_cons longMin longMax hdelim]
    exact strtol_of_numeral_eq_none longMin longMax hne hnum
  set n := (strtol longMin longMax (f ++ c :: w)).2 with hn
  have hmem : ((f ++ c :: w).drop n).headD 0 ∈ f := by
    rw [headD_drop_eq (by rw [List.length_append]; omega), List.getElem_append_left hlt]
    exact List.getElem_mem hlt
  have hcolon : ((f ++ c :: w).drop n).headD 0 ≠ 58 := ne_of_mem_of_not_mem hmem h.clean
  have hnul : ((f ++ c :: w).drop n).headD 0 ≠ 0 := by
    refine ne_of_mem_of_not_mem hmem fun hmem0 => h0 ?_
    simp [h.eq, hmem0]
  rw [heq]
  simp only [nextInt, ← hn, if_neg hcolon, if_neg hnul]
  split <;> rfl

/-- **A field that stands for a delay is read as that delay.** -/
theorem nextInt_of_fieldDelay (h : FirstField t f sep rest) (h0 : 0 ∉ t) (u : List UInt8) {d : ℤ}
    (hd : fieldDelay f = some d) : nextInt (t ++ 0 :: u) = (d, (f ++ sep).length) :=
  h.nextInt_of_fieldValue h0 u (fieldDelay_eq_some.mp hd).1

/-- **A field that stands for no delay is read as something negative.** -/
theorem nextInt_of_fieldDelay_eq_none (h : FirstField t f sep rest) (h0 : 0 ∉ t)
    (u : List UInt8) (hd : fieldDelay f = none) : (nextInt (t ++ 0 :: u)).1 < 0 := by
  cases hv : fieldValue f with
  | none =>
    rw [h.nextInt_of_fieldValue_eq_none h0 u hv]
    decide
  | some v =>
    rw [h.nextInt_of_fieldValue h0 u hv]
    by_contra hneg
    have hsome : fieldDelay f = some v := fieldDelay_eq_some.mpr ⟨hv, not_lt.mp hneg⟩
    rw [hd] at hsome
    simp at hsome

end FirstField

/-- With no delay in what is left, something negative is read. -/
theorem nextInt_neg_of_delays_eq_nil {t : List UInt8} (h0 : 0 ∉ t) (u : List UInt8)
    (h : delays t = []) : (nextInt (t ++ 0 :: u)).1 < 0 := by
  by_cases ht : t = []
  · rw [ht, List.nil_append, nextInt_nul]
    decide
  · obtain ⟨f, sep, rest, hf⟩ := exists_firstField ht
    apply hf.nextInt_of_fieldDelay_eq_none h0
    cases hd : fieldDelay f with
    | none => rfl
    | some d =>
      rw [delays_cons hf.fields_eq hd] at h
      simp at h

/-- With a delay in what is left, it is read, and the others are left. -/
theorem nextInt_of_delays_eq_cons {t : List UInt8} (h0 : 0 ∉ t) (u : List UInt8) {d : ℤ}
    {ds : List ℤ} (h : delays t = d :: ds) :
    ∃ n rest, nextInt (t ++ 0 :: u) = (d, n) ∧ (t ++ 0 :: u).drop n = rest ++ 0 :: u ∧
      0 ∉ rest ∧ delays rest = ds := by
  have ht : t ≠ [] := by
    rintro rfl
    simp at h
  obtain ⟨f, sep, rest, hf⟩ := exists_firstField ht
  cases hd : fieldDelay f with
  | none =>
    rw [delays_of_fieldDelay_eq_none hf.fields_eq hd] at h
    simp at h
  | some e =>
    rw [delays_cons hf.fields_eq hd, List.cons.injEq] at h
    obtain ⟨rfl, rfl⟩ := h
    refine ⟨_, rest, hf.nextInt_of_fieldDelay h0 u hd, ?_, ?_, rfl⟩
    · rw [hf.eq, List.append_assoc (f ++ sep), List.drop_left]
    · intro hmem
      exact h0 (by simp [hf.eq, hmem])

/-! ### The fields `get_next_int` comes to -/

/-- After `k` delays have been read, the others are left. -/
theorem exists_drop_cursor {pattern : List UInt8} (h0 : 0 ∉ pattern) {k : ℕ}
    (hk : k ≤ (delays pattern).length) :
    ∃ t, (CString.ofBytes pattern).bytes.drop (cursor (.ofBytes pattern) k) = t ++ [0] ∧
      0 ∉ t ∧ delays t = (delays pattern).drop k := by
  induction k with
  | zero => exact ⟨pattern, rfl, h0, rfl⟩
  | succ k ih =>
    obtain ⟨t, ht, h0t, hdelays⟩ := ih (Nat.le_of_succ_le hk)
    rw [List.drop_eq_getElem_cons hk] at hdelays
    obtain ⟨n, rest, hnext, hdrop, h0rest, hrest⟩ := nextInt_of_delays_eq_cons h0t [] hdelays
    refine ⟨rest, ?_, h0rest, hrest⟩
    rw [cursor, ← List.drop_drop, ht, hnext]
    exact hdrop

/-- **The fields `get_next_int` comes to are the delays of the pattern.** -/
theorem field_eq_delays {pattern : List UInt8} (h0 : 0 ∉ pattern) {k : ℕ}
    (hk : k < (delays pattern).length) : field (.ofBytes pattern) k = (delays pattern)[k] := by
  obtain ⟨t, ht, h0t, hdelays⟩ := exists_drop_cursor h0 hk.le
  rw [List.drop_eq_getElem_cons hk] at hdelays
  obtain ⟨n, rest, hnext, -⟩ := nextInt_of_delays_eq_cons h0t [] hdelays
  rw [field, ht, hnext]

/-- **After the last of them it finds none.** -/
theorem field_delays_length {pattern : List UInt8} (h0 : 0 ∉ pattern) :
    field (.ofBytes pattern) (delays pattern).length < 0 := by
  obtain ⟨t, ht, h0t, hdelays⟩ := exists_drop_cursor h0 le_rfl
  rw [List.drop_length] at hdelays
  rw [field, ht]
  exact nextInt_neg_of_delays_eq_nil h0t [] hdelays

end PelionClientLite
