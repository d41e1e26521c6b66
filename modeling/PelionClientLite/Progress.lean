import PelionClientLite.Playback

/-!
# The progress of the pattern cursor

`get_next_int` is called again and again on one buffer, also after it has failed.
Whatever the buffer holds, the cursor stays before the end of the string, goes only
forward, and goes forward each time there was an integer to return; so the string
runs out of integers.

## Main definitions

* `Blinky.getNextInts` — a number of calls of `get_next_int`, one after the other.

## Main results

* `nextInt_moved_ne_nul`, `nextInt_progress` — one call does not pass a NUL, and
  passes something if it returns an integer.
* `getNextInts_progress` — **any number of calls comes back, with the cursor inside
  the string, and no more of them return an integer than the string has bytes.**
-/

namespace PelionClientLite

open CLib Machine

/-- **The cursor does not pass a NUL**, also where it skips a separator. -/
theorem nextInt_moved_ne_nul (s : List UInt8) : ∀ c ∈ s.take (nextInt s).2, c ≠ 0 := by
  have hconsumed := strtol_consumed_ne_nul longMin longMax s
  unfold nextInt
  dsimp only
  split
  · split
    · next hsep =>
      -- the byte skipped is a colon
      intro c hc
      rw [List.take_add_one, List.mem_append] at hc
      rcases hc with hc | hc
      · exact hconsumed c hc
      · rw [List.headD_eq_head?_getD, List.head?_drop] at hsep
        rw [Option.mem_toList] at hc
        rw [hc, Option.getD_some] at hsep
        rw [hsep]
        decide
    · split <;> exact hconsumed
  · exact hconsumed

/-- **A call that returns an integer moves the cursor.** -/
theorem nextInt_progress {s : List UInt8} (h : 0 ≤ (nextInt s).1) : 0 < (nextInt s).2 := by
  unfold nextInt at h ⊢
  dsimp only at h ⊢
  split at h
  · next hhead =>
    rw [if_pos hhead]
    split at h
    · next hsep =>
      rw [if_pos hsep]
      exact Nat.succ_pos _
    · next hsep =>
      rw [if_neg hsep]
      split at h
      · next hend =>
        rw [if_pos hend]
        -- `endptr` is at a NUL, and the cursor is not
        apply Nat.pos_of_ne_zero
        intro hzero
        rw [hzero, List.drop_zero] at hend
        exact hhead hend
      · exact absurd h (show ¬ (0 : ℤ) ≤ -1 by decide)
  · exact absurd h (show ¬ (0 : ℤ) ≤ -1 by decide)

namespace Blinky

/-- Calls of `get_next_int`, one after the other, and what they return. -/
def getNextInts : ℕ → Blinky → Except Stop (List ℤ × Blinky)
  | 0, b => .ok ([], b)
  | n + 1, b => do
      let (results, b) ← b.getNextInts n
      let (result, b) ← b.getNextInt
      return (results ++ [result], b)

/-- The cursor of a player stands at an offset into a string. -/
structure CursorAt (b : Blinky) (a : ℕ) (s : CString) (m : ℕ) : Prop where
  block : b.heap.block a = some s
  cursor : b.currPattern = some ⟨a, m⟩
  le_strlen : m ≤ s.strlen

/-- One call from a cursor inside the string. -/
theorem CursorAt.getNextInt {b : Blinky} {a m : ℕ} {s : CString} (h : CursorAt b a s m) :
    ∃ result b' m', b.getNextInt = .ok (result, b') ∧ CursorAt b' a s m' ∧ m ≤ m' ∧
      (0 ≤ result → m < m') := by
  have hlt : m < s.bytes.length := lt_of_le_of_lt h.le_strlen s.strlen_lt
  refine ⟨(nextInt (s.bytes.drop m)).1,
    { b with currPattern := some ⟨a, m + (nextInt (s.bytes.drop m)).2⟩ }, _, ?_,
    ⟨h.block, rfl, ?_⟩, Nat.le_add_right _ _, ?_⟩
  · simp only [Blinky.getNextInt, h.cursor, h.block, hlt, if_true]
  · -- neither the bytes before the cursor nor those it passes are NUL
    apply le_strlen_of_take_ne_nul
    intro c hc
    rw [List.take_add, List.mem_append] at hc
    rcases hc with hc | hc
    · exact ne_nul_of_mem_take_strlen h.le_strlen c hc
    · exact nextInt_moved_ne_nul _ c hc
  · intro hresult
    exact Nat.lt_add_of_pos_right (nextInt_progress hresult)

/-- Any number of calls from the start of the string: each integer returned has moved
the cursor. -/
theorem getNextInts_spec {b : Blinky} {a : ℕ} {s : CString} (h : CursorAt b a s 0) (n : ℕ) :
    ∃ results b' m, b.getNextInts n = .ok (results, b') ∧ results.length = n ∧
      CursorAt b' a s m ∧ results.countP (0 ≤ ·) ≤ m := by
  induction n with
  | zero => exact ⟨[], b, 0, rfl, rfl, h, le_rfl⟩
  | succ n ih =>
    obtain ⟨results, b', m, hok, hlen, hat, hcount⟩ := ih
    obtain ⟨result, b'', m', hok', hat', hle, hlt⟩ := hat.getNextInt
    refine ⟨results ++ [result], b'', m', ?_, by simp [hlen], hat', ?_⟩
    · simp only [getNextInts, hok, ok_bind, hok', pure_eq_ok]
    · rw [List.countP_append, List.countP_singleton]
      by_cases hresult : 0 ≤ result
      · have hmoved := hlt hresult
        simp only [hresult, decide_true, if_true]
        omega
      · simp only [hresult, decide_false, Bool.false_eq_true, if_false]
        omega

end Blinky

/-- **The cursor is bounded and makes progress.**  After any number of calls from the
start of a string, the cursor is inside the string, at most as many integers have been
returned as the string has bytes, and the next call does not move the cursor back, and
moves it forward if it returns an integer. -/
theorem getNextInts_progress {b : Blinky} {a : ℕ} {s : CString}
    (hblock : b.heap.block a = some s) (hcursor : b.currPattern = some ⟨a, 0⟩) (n : ℕ) :
    ∃ results b' m, b.getNextInts n = .ok (results, b') ∧ results.length = n ∧
      b'.currPattern = some ⟨a, m⟩ ∧ m ≤ s.strlen ∧ results.countP (0 ≤ ·) ≤ s.strlen ∧
      ∃ result b'' m', b'.getNextInt = .ok (result, b'') ∧
        b''.currPattern = some ⟨a, m'⟩ ∧ m ≤ m' ∧ m' ≤ s.strlen ∧ (0 ≤ result → m < m') := by
  obtain ⟨results, b', m, hok, hlen, hat, hcount⟩ :=
    Blinky.getNextInts_spec ⟨hblock, hcursor, Nat.zero_le _⟩ n
  obtain ⟨result, b'', m', hok', hat', hle, hlt⟩ := hat.getNextInt
  exact ⟨results, b', m, hok, hlen, hat.cursor, hat.le_strlen, hcount.trans hat.le_strlen,
    result, b'', m', hok', hat'.cursor, hle, hat'.le_strlen, hlt⟩

/-- Five calls on `7:x1`, which has four bytes. -/
theorem getNextInts_progress_seven :
    ∃ results b' m, ({ heap := Heap.empty.malloc (.ofBytes [55, 58, 120, 49]),
                       currPattern := some ⟨0, 0⟩ } : Blinky).getNextInts 5 = .ok (results, b') ∧
      b'.currPattern = some ⟨0, m⟩ ∧ m ≤ 4 ∧ results.countP (0 ≤ ·) ≤ 4 := by
  obtain ⟨results, b', m, hok, -, hcursor, hle, hcount, -⟩ :=
    getNextInts_progress (b := { heap := Heap.empty.malloc (.ofBytes [55, 58, 120, 49]),
                                 currPattern := some ⟨0, 0⟩ })
      (Heap.block_malloc_self Heap.empty _) rfl 5
  exact ⟨results, b', m, hok, hcursor, hle, hcount⟩

end PelionClientLite
