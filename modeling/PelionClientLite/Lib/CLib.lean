import Mathlib.Algebra.Order.Group.Int
import Mathlib.Data.List.TakeWhile
import Mathlib.Logic.Function.Basic

/-!
# The C library

What a program takes from the C library: strings ended by a NUL, `strtol` in base
ten, and a heap of blocks handed out by `malloc` and taken back by `free`.

Bytes are `UInt8`.  A string is read through a pointer, so `strtol` is given the
bytes from the pointer to the end of the block; it answers with the value and the
number of bytes `endptr` stands past the pointer.

## Main definitions

* `CString` — the contents of a buffer that ends in a NUL.
* `strtol` — the conversion of the C standard, in the C locale, base ten.
* `Heap`, `Ptr` — blocks, and pointers into them.

## Main results

* `strtol_consumed_ne_nul` — `endptr` never passes a NUL.
* `strtol_consumed_lt` — in a string, `endptr` points inside the string.
-/

namespace CLib

/-! ### Strings -/

/-- The contents of a buffer whose last byte is NUL. -/
structure CString where
  /-- All the bytes of the buffer, the NUL included. -/
  bytes : List UInt8
  /-- The last of them is NUL. -/
  terminated : bytes.getLast? = some 0

/-- The buffer `memcpy` of some bytes and a final NUL leave behind. -/
def CString.ofBytes (s : List UInt8) : CString where
  bytes := s ++ [0]
  terminated := by simp

theorem CString.length_pos (s : CString) : 0 < s.bytes.length := by
  rcases s with ⟨_ | ⟨c, cs⟩, h⟩
  · simp at h
  · simp

/-- `strlen`: how many bytes stand before the first NUL. -/
def CString.strlen (s : CString) : ℕ := (s.bytes.takeWhile (· ≠ 0)).length

theorem CString.strlen_lt (s : CString) : s.strlen < s.bytes.length := by
  refine lt_of_le_of_ne (List.takeWhile_prefix _).length_le fun hlen => ?_
  have hself : s.bytes.takeWhile (· ≠ 0) = s.bytes := (List.takeWhile_prefix _).eq_of_length hlen
  have hnul : (0 : UInt8) ∈ s.bytes := List.mem_of_getLast? s.terminated
  rw [← hself] at hnul
  simpa using List.mem_takeWhile_imp hnul

/-- What a pointer into a string reads ends in the same NUL. -/
theorem CString.getLast?_drop (s : CString) {n : ℕ} (h : n < s.bytes.length) :
    (s.bytes.drop n).getLast? = some 0 := by
  rw [List.getLast?_drop, if_neg (by omega), s.terminated]

/-! ### `strtol` -/

/-- `isspace` in the C locale. -/
def isspace (c : UInt8) : Bool := c == 32 || (9 ≤ c && c ≤ 13)

/-- `isdigit`. -/
def isdigit (c : UInt8) : Bool := 48 ≤ c && c ≤ 57

/-- How many bytes an optional sign takes. -/
def signLength (s : List UInt8) : ℕ :=
  if s.head? = some 43 ∨ s.head? = some 45 then 1 else 0

/-- The number a string of digits denotes. -/
def digitsValue (ds : List UInt8) : ℕ := ds.foldl (fun n c => n * 10 + (c.toNat - 48)) 0

/-- `strtol(s, &endptr, 10)` for a `long` between `lo` and `hi`: the value and
`endptr - s`.  Without a digit nothing is consumed and the value is `0`; out of
range, the value is the nearer limit. -/
def strtol (lo hi : ℤ) (s : List UInt8) : ℤ × ℕ :=
  let spaces := s.takeWhile isspace
  let rest := s.drop spaces.length
  let digits := (rest.drop (signLength rest)).takeWhile isdigit
  if digits.isEmpty then (0, 0)
  else
    let value : ℤ := if rest.head? = some 45 then -(digitsValue digits : ℤ) else digitsValue digits
    (max lo (min hi value), spaces.length + signLength rest + digits.length)

theorem isspace_nul : isspace 0 = false := by decide

theorem isdigit_nul : isdigit 0 = false := by decide

theorem take_length_takeWhile {α : Type*} (p : α → Bool) (l : List α) :
    l.take (l.takeWhile p).length = l.takeWhile p :=
  (List.prefix_iff_eq_take.mp (List.takeWhile_prefix p)).symm

theorem ne_nul_of_mem_takeWhile {p : UInt8 → Bool} (hp : p 0 = false) {s : List UInt8} {c : UInt8}
    (h : c ∈ s.takeWhile p) : c ≠ 0 := by
  rintro rfl
  have := List.mem_takeWhile_imp h
  rw [hp] at this
  exact absurd this (by decide)

/-- A sign is not a NUL. -/
theorem ne_nul_of_mem_take_signLength {s : List UInt8} {c : UInt8}
    (h : c ∈ s.take (signLength s)) : c ≠ 0 := by
  unfold signLength at h
  split at h
  · next hs =>
    cases s with
    | nil => simp at h
    | cons d s =>
      have hc : c = d := by simpa using h
      rw [List.head?_cons, Option.some.injEq, Option.some.injEq] at hs
      rw [hc]
      rcases hs with hs | hs <;> rw [hs] <;> decide
  · simp at h

/-- **`endptr` never passes a NUL**: every byte before it is something else. -/
theorem strtol_consumed_ne_nul (lo hi : ℤ) (s : List UInt8) :
    ∀ c ∈ s.take (strtol lo hi s).2, c ≠ 0 := by
  intro c hc
  simp only [strtol] at hc
  split at hc
  · simp at hc
  · -- the bytes consumed are the spaces, the sign and the digits, in that order
    rw [Nat.add_assoc, List.take_add, List.mem_append, take_length_takeWhile, List.take_add,
      List.mem_append, take_length_takeWhile] at hc
    rcases hc with hc | hc | hc
    · exact ne_nul_of_mem_takeWhile isspace_nul hc
    · exact ne_nul_of_mem_take_signLength hc
    · exact ne_nul_of_mem_takeWhile isdigit_nul hc

/-- A count of bytes none of which is NUL stays short of a final NUL. -/
theorem lt_length_of_take_ne_nul {s : List UInt8} {n : ℕ} (hs : s.getLast? = some 0)
    (h : ∀ c ∈ s.take n, c ≠ 0) : n < s.length := by
  by_contra hn
  rw [List.take_of_length_le (Nat.le_of_not_lt hn)] at h
  exact h 0 (List.mem_of_getLast? hs) rfl

theorem le_length_takeWhile {α : Type*} {p : α → Bool} {l : List α} {n : ℕ} (hn : n ≤ l.length)
    (h : ∀ c ∈ l.take n, p c = true) : n ≤ (l.takeWhile p).length := by
  induction l generalizing n with
  | nil => exact hn
  | cons c l ih =>
    cases n with
    | zero => exact Nat.zero_le _
    | succ n =>
      rw [List.take_succ_cons, List.forall_mem_cons] at h
      rw [List.takeWhile_cons_of_pos h.1, List.length_cons]
      exact Nat.succ_le_succ (ih (Nat.le_of_succ_le_succ hn) h.2)

/-- A count of bytes none of which is NUL does not reach past the first NUL. -/
theorem le_strlen_of_take_ne_nul {s : CString} {n : ℕ} (h : ∀ c ∈ s.bytes.take n, c ≠ 0) :
    n ≤ s.strlen :=
  le_length_takeWhile (lt_length_of_take_ne_nul s.terminated h).le (by simpa using h)

/-- The bytes before the first NUL are not NUL. -/
theorem ne_nul_of_mem_take_strlen {s : CString} {n : ℕ} (hn : n ≤ s.strlen) :
    ∀ c ∈ s.bytes.take n, c ≠ 0 := by
  intro c hc
  have hprefix : s.bytes.take n <+: s.bytes.take s.strlen := List.take_prefix_take_left hn
  have hmem := hprefix.subset hc
  rw [CString.strlen, take_length_takeWhile] at hmem
  simpa using List.mem_takeWhile_imp hmem

/-- **In a string, `endptr` points inside the string.** -/
theorem strtol_consumed_lt (lo hi : ℤ) {s : List UInt8} (hs : s.getLast? = some 0) :
    (strtol lo hi s).2 < s.length :=
  lt_length_of_take_ne_nul hs (strtol_consumed_ne_nul lo hi s)

/-! ### The heap -/

/-- The blocks `malloc` has handed out and `free` has not taken back, by address. -/
structure Heap (β : Type*) where
  /-- The address the next block gets; no address is handed out twice. -/
  next : ℕ
  /-- What the live blocks hold. -/
  block : ℕ → Option β

/-- A pointer: a block and an offset into it. -/
structure Ptr where
  /-- The address of the block. -/
  block : ℕ
  /-- The offset from its start. -/
  offset : ℕ
  deriving DecidableEq, Repr

namespace Heap

variable {β : Type*}

/-- The heap before the first `malloc`. -/
def empty : Heap β := ⟨0, fun _ => none⟩

/-- `malloc` of a block that is then filled with `b`. -/
def malloc (h : Heap β) (b : β) : Heap β := ⟨h.next + 1, Function.update h.block h.next (some b)⟩

/-- `free(p)`, which does nothing for NULL. -/
def free (h : Heap β) : Option ℕ → Heap β
  | none => h
  | some a => { h with block := Function.update h.block a none }

@[simp] theorem block_malloc_self (h : Heap β) (b : β) : (h.malloc b).block h.next = some b :=
  Function.update_self ..

end Heap

end CLib
