import Mathlib.Data.List.Basic

/-!
# A latch

A latch is set by those who want something done, and polled by the one who does it; a poll
clears it.  However often it is set from one poll to the next, it is found set once.

## Main definitions

* `Latch`, `Latch.step`, `Latch.after` — a latch that counts how often it is found set.
* `Latch.groups` — how often something was wanted.

## Main results

* `Latch.after_groups` — **whatever was wanted has been found once, or is still to be.**
-/

/-- A latch, and how often a poll has found it set. -/
structure Latch where
  isSet : Bool := false
  found : ℕ := 0

namespace Latch

/-- What happens to a latch. -/
inductive Input where
  | set
  | poll
  deriving DecidableEq, Repr

/-- A poll finds the latch as it is, and clears it. -/
def step (l : Latch) : Input → Latch
  | .set => { l with isSet := true }
  | .poll => ⟨false, l.found + l.isSet.toNat⟩

/-- What a latch has come to. -/
def after (js : List Input) : Latch := js.foldl step {}

@[simp] theorem after_nil : after [] = {} := rfl

theorem after_concat (js : List Input) (j : Input) : after (js ++ [j]) = (after js).step j := by
  rw [after, List.foldl_append, after]
  rfl

/-- The groups of settings without a poll in between. -/
def groups (js : List Input) : ℕ := (js.splitOnP (· = .poll)).countP (!·.isEmpty)

theorem groups_poll (js : List Input) : groups (.poll :: js) = groups js := by
  rw [groups, List.splitOnP_cons_eq_if_modifyHead]
  exact List.countP_cons_of_neg (by simp)

/-- What is split off before the first poll, and the rest. -/
theorem exists_splitOnP_eq_cons (js : List Input) :
    ∃ first rest, js.splitOnP (· = .poll) = first :: rest :=
  List.exists_cons_of_ne_nil (List.splitOnP_ne_nil _ js)

/-- Setting a latch once more changes nothing. -/
theorem groups_set_set (js : List Input) : groups (.set :: .set :: js) = groups (.set :: js) := by
  obtain ⟨first, rest, hsplit⟩ := exists_splitOnP_eq_cons js
  simp [groups, List.splitOnP_cons_eq_if_modifyHead, hsplit]

theorem groups_set_poll (js : List Input) : groups (.set :: .poll :: js) = groups js + 1 := by
  simp [groups, List.splitOnP_cons_eq_if_modifyHead]

/-- From any state of the latch on, what is wanted is found or still to be found. -/
theorem foldl_step_groups (js : List Input) (l : Latch) :
    (js.foldl step l).found + (js.foldl step l).isSet.toNat =
      l.found + groups (if l.isSet then .set :: js else js) := by
  induction js generalizing l with
  | nil => cases hset : l.isSet <;> simp [hset, groups, List.splitOnP_cons_eq_if_modifyHead]
  | cons j js ih =>
    rw [List.foldl_cons, ih]
    cases j with
    | set =>
      cases hset : l.isSet with
      | false => simp [step]
      | true => simp [step, groups_set_set]
    | poll =>
      cases hset : l.isSet with
      | false => simp [step, hset, groups_poll]
      | true =>
        simp only [step, hset, groups_set_poll, Bool.toNat_true, Bool.false_eq_true, if_false,
          if_true]
        omega

/-- **Whatever was wanted has been found once, or is still to be.** -/
theorem after_groups (js : List Input) :
    (after js).found + (after js).isSet.toNat = groups js := by
  have hgroups := foldl_step_groups js {}
  simpa [after] using hgroups

end Latch
