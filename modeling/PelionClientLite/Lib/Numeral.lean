import PelionClientLite.Lib.CLib

/-!
# Numerals

`strtol` reads as much of a text as it can.  A numeral is a text it reads all of:
spaces, an optional sign, and digits.  Whatever follows the text, as long as it
starts with a byte of none of these kinds, `strtol` reads a numeral to its end and
stops short of the end of any other text.

## Main definitions

* `numeral` — the integer a text denotes, if it is a numeral.
* `decimal` — the numeral of a natural number, in decimal.

## Main results

* `strtol_of_numeral` — a numeral is read to its end, up to the range of a `long`.
* `strtol_of_numeral_eq_none` — of any other text, something is left over.
* `numeral_decimal` — the decimal numeral of a number denotes it.
-/

namespace CLib

/-- The integer a text of the form spaces, sign, digits denotes. -/
def numeral (s : List UInt8) : Option ℤ :=
  let rest := s.dropWhile isspace
  let digits := rest.drop (signLength rest)
  if digits ≠ [] ∧ digits.all isdigit then
    some (if rest.head? = some 45 then -(digitsValue digits : ℤ) else digitsValue digits)
  else none

/-- A byte that can be no part of a numeral. -/
structure Delimiter (c : UInt8) : Prop where
  not_isspace : isspace c = false
  not_isdigit : isdigit c = false
  not_sign : c ≠ 43 ∧ c ≠ 45

theorem delimiter_nul : Delimiter 0 := ⟨by decide, by decide, by decide⟩

/-! ### What follows does not matter -/

theorem takeWhile_append_cons {α : Type*} {p : α → Bool} {c : α} (hc : p c = false)
    (s t : List α) : (s ++ c :: t).takeWhile p = s.takeWhile p := by
  induction s with
  | nil => simp [hc]
  | cons d s ih =>
    rw [List.cons_append, List.takeWhile_cons, List.takeWhile_cons, ih]

theorem drop_length_takeWhile {α : Type*} (p : α → Bool) (s : List α) :
    s.drop (s.takeWhile p).length = s.dropWhile p := by
  induction s with
  | nil => rfl
  | cons c s ih =>
    cases hc : p c with
    | true => simp [hc, ih]
    | false => simp [hc]

theorem signLength_append_cons {c : UInt8} (hc : Delimiter c) (s t : List UInt8) :
    signLength (s ++ c :: t) = signLength s := by
  cases s with
  | nil => simp [signLength, hc.not_sign.1, hc.not_sign.2]
  | cons d s => rfl

theorem signLength_le (s : List UInt8) : signLength s ≤ s.length := by
  unfold signLength
  split
  · cases s <;> simp_all
  · exact Nat.zero_le _

/-- **`strtol` sees nothing of what stands behind a delimiter.** -/
theorem strtol_append_cons (lo hi : ℤ) {c : UInt8} (hc : Delimiter c) (s t : List UInt8) :
    strtol lo hi (s ++ c :: t) = strtol lo hi s := by
  have hspaces : (s ++ c :: t).takeWhile isspace = s.takeWhile isspace :=
    takeWhile_append_cons hc.not_isspace s t
  have hrest : (s ++ c :: t).drop (s.takeWhile isspace).length =
      s.dropWhile isspace ++ c :: t := by
    rw [List.drop_append_of_le_length (List.takeWhile_prefix isspace).length_le,
      drop_length_takeWhile]
  have hhead : (s.dropWhile isspace ++ c :: t).head? = some 45 ↔
      (s.dropWhile isspace).head? = some 45 := by
    cases s.dropWhile isspace with
    | nil => simp [hc.not_sign.2]
    | cons d u => rfl
  simp only [strtol, hspaces, hrest, drop_length_takeWhile, hhead, signLength_append_cons hc,
    List.drop_append_of_le_length (signLength_le _), takeWhile_append_cons hc.not_isdigit]

/-! ### Reading a whole text -/

/-- How much of a text the spaces, the sign and the rest take. -/
theorem length_eq_spaces_add_sign_add (s : List UInt8) :
    s.length = (s.takeWhile isspace).length + signLength (s.dropWhile isspace) +
      ((s.dropWhile isspace).drop (signLength (s.dropWhile isspace))).length := by
  have hsplit : s.length = (s.takeWhile isspace).length + (s.dropWhile isspace).length := by
    rw [← List.length_append, List.takeWhile_append_dropWhile]
  have hsign := signLength_le (s.dropWhile isspace)
  rw [List.length_drop]
  omega

theorem takeWhile_eq_self_iff_all {α : Type*} {p : α → Bool} {s : List α} :
    s.takeWhile p = s ↔ s.all p = true := by
  rw [List.takeWhile_eq_self_iff, List.all_eq_true]

/-- **A numeral is read to its end**, and its value is exact unless it is out of
range. -/
theorem strtol_of_numeral (lo hi : ℤ) {s : List UInt8} {v : ℤ} (h : numeral s = some v) :
    strtol lo hi s = (max lo (min hi v), s.length) := by
  simp only [numeral] at h
  split at h
  · next hdigits =>
    obtain ⟨hne, hall⟩ := hdigits
    have hv := Option.some.inj h
    have hlen := length_eq_spaces_add_sign_add s
    simp only [strtol, drop_length_takeWhile, takeWhile_eq_self_iff_all.mpr hall,
      List.isEmpty_iff, if_neg hne, hv]
    rw [← hlen]
  · simp at h

/-- **Of a text that is no numeral, something is left over.** -/
theorem strtol_of_numeral_eq_none (lo hi : ℤ) {s : List UInt8} (hs : s ≠ [])
    (h : numeral s = none) : (strtol lo hi s).2 < s.length := by
  have hlen := length_eq_spaces_add_sign_add s
  have hpos : 0 < s.length := List.length_pos_iff.mpr hs
  simp only [numeral] at h
  split at h
  · simp at h
  · next hdigits =>
    simp only [strtol, drop_length_takeWhile]
    split
    · exact hpos
    · next hne =>
      -- there are digits, but they do not reach the end
      set rest := (s.dropWhile isspace).drop (signLength (s.dropWhile isspace)) with hrest
      have hlt : (rest.takeWhile isdigit).length < rest.length := by
        refine lt_of_le_of_ne (List.takeWhile_prefix isdigit).length_le fun heq => hdigits ?_
        have hself : rest.takeWhile isdigit = rest :=
          (List.takeWhile_prefix isdigit).eq_of_length heq
        refine ⟨?_, takeWhile_eq_self_iff_all.mp hself⟩
        rw [← hself]
        simpa [List.isEmpty_iff] using hne
      show _ + _ + (rest.takeWhile isdigit).length < s.length
      omega

/-! ### Decimals -/

/-- The digit, as `printf` writes it. -/
def ofChar (c : Char) : UInt8 := UInt8.ofNat c.toNat

/-- A natural number in decimal, as `printf` writes it. -/
def decimal (n : ℕ) : List UInt8 := (Nat.toDigits 10 n).map ofChar

theorem decimal_ne_nil (n : ℕ) : decimal n ≠ [] := by
  simp [decimal, Nat.toDigits_ne_nil]

/-- A decimal digit is the same as a byte and as a character. -/
theorem ofChar_toNat {c : Char} (h : c.isDigit = true) : (ofChar c).toNat = c.toNat := by
  have hle : c.toNat ≤ 57 := by
    simp only [Char.isDigit, Bool.and_eq_true, decide_eq_true_eq] at h
    exact h.2
  rw [ofChar, UInt8.toNat_ofNat']
  exact Nat.mod_eq_of_lt (by omega)

theorem isdigit_ofChar {c : Char} (h : c.isDigit = true) : isdigit (ofChar c) = true := by
  have hnat := ofChar_toNat h
  simp only [Char.isDigit, Bool.and_eq_true, decide_eq_true_eq] at h
  have hge : 48 ≤ c.toNat := h.1
  have hle : c.toNat ≤ 57 := h.2
  rw [isdigit, Bool.and_eq_true, decide_eq_true_eq, decide_eq_true_eq, UInt8.le_iff_toNat_le,
    UInt8.le_iff_toNat_le, hnat]
  exact ⟨hge, hle⟩

theorem isdigit_of_mem_decimal {n : ℕ} {c : UInt8} (h : c ∈ decimal n) : isdigit c = true := by
  obtain ⟨d, hd, rfl⟩ := List.mem_map.mp h
  exact isdigit_ofChar (Nat.isDigit_of_mem_toDigits (by decide) (by decide) hd)

/-- What the digits denote is the number. -/
theorem digitsValue_decimal (n : ℕ) : digitsValue (decimal n) = n := by
  have hfold : ∀ (cs : List Char) (k : ℕ), (∀ c ∈ cs, c.isDigit = true) →
      (cs.map ofChar).foldl (fun n c => n * 10 + (c.toNat - 48)) k = Nat.ofDigitChars 10 cs k := by
    intro cs
    induction cs with
    | nil =>
      intro k _
      exact Nat.ofDigitChars_nil.symm
    | cons c cs ih =>
      intro k hcs
      rw [List.forall_mem_cons] at hcs
      rw [List.map_cons, List.foldl_cons, ofChar_toNat hcs.1, ih _ hcs.2, Nat.ofDigitChars_cons,
        Nat.mul_comm]
      rfl
  rw [digitsValue, decimal, hfold _ _ fun c hc =>
    Nat.isDigit_of_mem_toDigits (by decide) (by decide) hc]
  exact Nat.ofDigitChars_ten_toDigits

/-- A digit is no space and no sign. -/
theorem not_isspace_of_isdigit {c : UInt8} (h : isdigit c = true) :
    isspace c = false ∧ c ≠ 43 ∧ c ≠ 45 := by
  simp only [isdigit, Bool.and_eq_true, decide_eq_true_eq, UInt8.le_iff_toNat_le] at h
  have hge : 48 ≤ c.toNat := h.1
  refine ⟨?_, ?_, ?_⟩
  · rw [← Bool.not_eq_true, isspace, Bool.or_eq_true, Bool.and_eq_true, beq_iff_eq,
      decide_eq_true_eq, decide_eq_true_eq, UInt8.le_iff_toNat_le, UInt8.le_iff_toNat_le]
    rintro (rfl | ⟨-, hle⟩)
    · exact absurd hge (by decide)
    · have hle' : c.toNat ≤ 13 := hle
      omega
  · rintro rfl
    exact absurd hge (by decide)
  · rintro rfl
    exact absurd hge (by decide)

/-- A text of digits is a numeral. -/
theorem numeral_of_isdigit {s : List UInt8} (hne : s ≠ []) (hs : ∀ c ∈ s, isdigit c = true) :
    numeral s = some (digitsValue s : ℤ) := by
  obtain ⟨c, t, rfl⟩ := List.exists_cons_of_ne_nil hne
  obtain ⟨hspace, hplus, hminus⟩ := not_isspace_of_isdigit (hs c List.mem_cons_self)
  have hall : (c :: t).all isdigit = true := List.all_eq_true.mpr hs
  simp only [numeral, List.dropWhile_cons_of_neg (show ¬ isspace c = true by simp [hspace])]
  simp [signLength, hplus, hminus, hall]

/-- **The decimal numeral of a number denotes it.** -/
theorem numeral_decimal (n : ℕ) : numeral (decimal n) = some (n : ℤ) := by
  rw [numeral_of_isdigit (decimal_ne_nil n) fun _ => isdigit_of_mem_decimal, digitsValue_decimal]

end CLib
