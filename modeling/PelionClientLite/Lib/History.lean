import Mathlib.Data.List.Infix

/-!
# What has happened since

A run leaves a history: the list of what has happened, oldest first.  Conditions
on it speak of what has come after the last entry of a kind, or of that entry.

## Main definitions

* `since` — what has come after the last entry that resets.
* `latest` — the last entry of a kind.
-/

namespace History

variable {ι : Type*} {p : ι → Bool}

/-- What has come after the last entry that resets, newest first. -/
def since (reset : ι → Bool) (is : List ι) : List ι := is.reverse.takeWhile (!reset ·)

/-- The last entry of a kind, if there has been one. -/
def latest (p : ι → Bool) (is : List ι) : Option ι := is.reverse.find? p

theorem since_concat_of_reset (is : List ι) {i : ι} (h : p i = true) :
    since p (is ++ [i]) = [] := by
  rw [since, List.reverse_append, List.reverse_singleton, List.singleton_append,
    List.takeWhile_cons_of_neg (by simp [h])]

theorem since_concat (is : List ι) {i : ι} (h : p i = false) :
    since p (is ++ [i]) = i :: since p is := by
  rw [since, List.reverse_append, List.reverse_singleton, List.singleton_append,
    List.takeWhile_cons_of_pos (by simp [h]), since]

/-- What is counted since the last entry that resets, one entry later. -/
theorem countP_since_concat (q : ι → Bool) (is : List ι) (i : ι) :
    (since p (is ++ [i])).countP q =
      if p i then 0 else if q i then (since p is).countP q + 1 else (since p is).countP q := by
  cases hreset : p i with
  | true =>
    rw [since_concat_of_reset is hreset, if_pos rfl]
    rfl
  | false =>
    have hsince : since p (is ++ [i]) = i :: since p is := since_concat is hreset
    rw [hsince, List.countP_cons]
    cases q i <;> simp

theorem latest_concat_of_kind (is : List ι) {i : ι} (h : p i = true) :
    latest p (is ++ [i]) = some i := by
  rw [latest, List.reverse_append, List.reverse_singleton, List.singleton_append,
    List.find?_cons_of_pos h]

theorem latest_concat (is : List ι) {i : ι} (h : p i = false) :
    latest p (is ++ [i]) = latest p is := by
  rw [latest, List.reverse_append, List.reverse_singleton, List.singleton_append,
    List.find?_cons_of_neg (by simp [h]), latest]

end History
