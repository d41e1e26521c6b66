import Mathlib.Logic.Function.Basic

/-!
# Ownership

Owners hold cells, each owner at most one.  They are matched when the owners that
hold something and the cells in use correspond one to one: nothing held is unused,
nothing is held twice, and nothing in use is held by nobody.

## Main definitions

* `Matched own cells` — the correspondence.
* `Inverse own owner` — the owner of each cell, the other way round.
* `view own cells` — what the owners have in the cells they hold.

## Main results

* `Matched.take`, `Matched.release` — **taking an unused cell and releasing a held
  one keep owners and cells matched.**
* `Matched.trans` — owners of cells that own other cells own those.
* `Matched.view_take`, `Matched.view_release`, `Matched.view_set` — **cells that are matched
  look like variables of their owners**: what one owner does, no other sees.
-/

namespace Ownership

variable {ν α β : Type*}

/-- Owners and cells in use correspond one to one. -/
structure Matched (own : ν → Option α) (cells : α → Option β) : Prop where
  /-- What is held is in use. -/
  used : ∀ v a, own v = some a → ∃ b, cells a = some b
  /-- It is held once. -/
  once : ∀ v w a, own v = some a → own w = some a → v = w
  /-- What is in use is held. -/
  held : ∀ a b, cells a = some b → ∃ v, own v = some a

theorem Matched.empty : Matched (fun _ : ν => (none : Option α)) fun _ => (none : Option β) where
  used v a h := by simp at h
  once v w a h := by simp at h
  held a b h := by simp at h

variable [DecidableEq ν] [DecidableEq α] {own : ν → Option α} {cells : α → Option β} {v : ν}
  {a : α}

/-- **An owner that holds nothing takes a cell that is not in use.** -/
theorem Matched.take (h : Matched own cells) (ha : cells a = none) (b : β) (hv : own v = none) :
    Matched (Function.update own v (some a)) (Function.update cells a (some b)) := by
  have hfree : ∀ w, own w ≠ some a := by
    intro w hw
    obtain ⟨c, hc⟩ := h.used w a hw
    rw [ha] at hc
    simp at hc
  have hown : ∀ w c, Function.update own v (some a) w = some c →
      (w = v ∧ c = a) ∨ (w ≠ v ∧ c ≠ a ∧ own w = some c) := by
    intro w c hw
    by_cases hwv : w = v
    · rw [hwv, Function.update_self, Option.some.injEq] at hw
      exact Or.inl ⟨hwv, hw.symm⟩
    · rw [Function.update_of_ne hwv] at hw
      exact Or.inr ⟨hwv, fun hc => hfree w (hc ▸ hw), hw⟩
  refine ⟨?_, ?_, ?_⟩
  · intro w c hw
    rcases hown w c hw with ⟨-, hc⟩ | ⟨-, hc, hw⟩
    · exact ⟨b, by rw [hc, Function.update_self]⟩
    · obtain ⟨d, hd⟩ := h.used w c hw
      exact ⟨d, by rw [Function.update_of_ne hc, hd]⟩
  · intro w x c hw hx
    rcases hown w c hw with ⟨hw, hc⟩ | ⟨-, hc, hw⟩ <;>
      rcases hown x c hx with ⟨hx, hc'⟩ | ⟨-, hc', hx⟩
    · rw [hw, hx]
    · exact absurd hc hc'
    · exact absurd hc' hc
    · exact h.once w x c hw hx
  · intro c d hc
    by_cases hca : c = a
    · exact ⟨v, by rw [hca, Function.update_self]⟩
    · rw [Function.update_of_ne hca] at hc
      obtain ⟨w, hw⟩ := h.held c d hc
      have hwv : w ≠ v := by
        rintro rfl
        rw [hv] at hw
        simp at hw
      exact ⟨w, by rw [Function.update_of_ne hwv, hw]⟩

/-- **An owner releases the cell it holds.** -/
theorem Matched.release (h : Matched own cells) (hv : own v = some a) :
    Matched (Function.update own v none) (Function.update cells a none) := by
  have hown : ∀ w c, Function.update own v none w = some c → w ≠ v ∧ c ≠ a ∧ own w = some c := by
    intro w c hw
    by_cases hwv : w = v
    · rw [hwv, Function.update_self] at hw
      simp at hw
    · rw [Function.update_of_ne hwv] at hw
      exact ⟨hwv, fun hc => hwv (h.once w v a (hc ▸ hw) hv), hw⟩
  refine ⟨?_, ?_, ?_⟩
  · intro w c hw
    obtain ⟨-, hc, hw⟩ := hown w c hw
    obtain ⟨d, hd⟩ := h.used w c hw
    exact ⟨d, by rw [Function.update_of_ne hc, hd]⟩
  · intro w x c hw hx
    exact h.once w x c (hown w c hw).2.2 (hown x c hx).2.2
  · intro c d hc
    by_cases hca : c = a
    · rw [hca, Function.update_self] at hc
      simp at hc
    · rw [Function.update_of_ne hca] at hc
      obtain ⟨w, hw⟩ := h.held c d hc
      have hwv : w ≠ v := by
        rintro rfl
        rw [hv, Option.some.injEq] at hw
        exact hca hw.symm
      exact ⟨w, by rw [Function.update_of_ne hwv, hw]⟩

/-! ### Knowing the owners -/

/-- The owner of each cell that is held. -/
def Inverse (own : ν → Option α) (owner : α → Option ν) : Prop :=
  ∀ v a, own v = some a ↔ owner a = some v

theorem Inverse.take {owner : α → Option ν} (h : Inverse own owner) (hv : own v = none)
    (ha : owner a = none) :
    Inverse (Function.update own v (some a)) (Function.update owner a (some v)) := by
  intro w b
  by_cases hwv : w = v <;> by_cases hba : b = a
  · simp [hwv, hba]
  · have hb : owner b ≠ some v := fun hb => by simp [(h v b).mpr hb] at hv
    simp [hwv, hba, hb, Ne.symm hba]
  · have hw : own w ≠ some a := fun hw => by simp [(h w a).mp hw] at ha
    simp [hwv, hba, hw, Ne.symm hwv]
  · rw [Function.update_of_ne hwv, Function.update_of_ne hba]
    exact h w b

theorem Inverse.release {owner : α → Option ν} (h : Inverse own owner) (hv : own v = some a) :
    Inverse (Function.update own v none) (Function.update owner a none) := by
  intro w b
  by_cases hwv : w = v <;> by_cases hba : b = a
  · simp [hwv, hba]
  · have hb : owner b ≠ some v := fun hb => hba (by simpa [hv, eq_comm] using (h v b).mpr hb)
    simp [hwv, hba, hb]
  · have hw : own w ≠ some a := by
      intro hw
      have howner := (h w a).mp hw
      rw [(h v a).mp hv, Option.some.injEq] at howner
      exact hwv howner.symm
    simp [hwv, hba, hw]
  · rw [Function.update_of_ne hwv, Function.update_of_ne hba]
    exact h w b

/-! ### Cells seen through their owners -/

/-- What an owner has in the cell it holds. -/
def view (own : ν → Option α) (cells : α → Option β) (v : ν) : Option β := (own v).bind cells

section View

omit [DecidableEq ν] [DecidableEq α]

theorem view_eq_some {x : β} :
    view own cells v = some x ↔ ∃ a, own v = some a ∧ cells a = some x := Option.bind_eq_some_iff

/-- Nothing is seen but by an owner. -/
theorem Matched.view_eq_none (h : Matched own cells) : view own cells v = none ↔ own v = none := by
  constructor
  · intro hv
    cases hown : own v with
    | none => rfl
    | some a =>
      obtain ⟨x, hx⟩ := h.used v a hown
      rw [view, hown, Option.bind_some, hx] at hv
      simp at hv
  · intro hv
    rw [view, hv, Option.bind_none]

/-- Whether a cell is in use is all that counts. -/
theorem Matched.congr {γ : Type*} {cells' : α → Option γ} (h : Matched own cells)
    (hsame : ∀ a, (cells' a).isSome = (cells a).isSome) : Matched own cells' where
  used v a hv := by
    obtain ⟨x, hx⟩ := h.used v a hv
    rw [← Option.isSome_iff_exists, hsame, hx, Option.isSome_some]
  once := h.once
  held a y ha := by
    have hsome : (cells a).isSome := by rw [← hsame, ha, Option.isSome_some]
    obtain ⟨x, hx⟩ := Option.isSome_iff_exists.mp hsome
    exact h.held a x hx

/-- **Owners of cells that own other cells own those.** -/
theorem Matched.trans {ι γ : Type*} {names : α → Option ι} {objects : ι → Option γ}
    (h : Matched own names) (h' : Matched names objects) : Matched (view own names) objects where
  used v i hv := by
    obtain ⟨a, -, ha⟩ := view_eq_some.mp hv
    exact h'.used a i ha
  once v w i hv hw := by
    obtain ⟨a, hva, ha⟩ := view_eq_some.mp hv
    obtain ⟨b, hwb, hb⟩ := view_eq_some.mp hw
    exact h.once v w a hva (h'.once b a i hb ha ▸ hwb)
  held i x hi := by
    obtain ⟨a, ha⟩ := h'.held i x hi
    obtain ⟨v, hv⟩ := h.held a i ha
    exact ⟨v, view_eq_some.mpr ⟨a, hv, ha⟩⟩

end View

omit [DecidableEq ν] in
/-- Owners other than the one that holds a cell do not see it change. -/
theorem view_update_of_ne {x : Option β} {w : ν} (hw : own w ≠ some a) :
    view own (Function.update cells a x) w = view own cells w := by
  cases hown : own w with
  | none => rw [view, view, hown, Option.bind_none, Option.bind_none]
  | some c =>
    have hca : c ≠ a := by
      rintro rfl
      exact hw hown
    rw [view, view, hown, Option.bind_some, Option.bind_some, Function.update_of_ne hca]

/-- **A cell that is written changes what its owner sees, and nothing else.** -/
theorem Matched.view_set (h : Matched own cells) (hv : own v = some a) (x : β) :
    view own (Function.update cells a (some x)) = Function.update (view own cells) v (some x) := by
  funext w
  by_cases hwv : w = v
  · rw [hwv, Function.update_self, view, hv, Option.bind_some, Function.update_self]
  · rw [Function.update_of_ne hwv, view_update_of_ne]
    intro hw
    exact hwv (h.once w v a hw hv)

/-- **A cell that is taken changes what its new owner sees.** -/
theorem Matched.view_take (h : Matched own cells) (ha : cells a = none) (x : β) :
    view (Function.update own v (some a)) (Function.update cells a (some x)) =
      Function.update (view own cells) v (some x) := by
  funext w
  by_cases hwv : w = v
  · rw [hwv, Function.update_self, view, Function.update_self, Option.bind_some,
      Function.update_self]
  · have hw : own w ≠ some a := by
      intro hw
      obtain ⟨y, hy⟩ := h.used w a hw
      rw [ha] at hy
      simp at hy
    rw [Function.update_of_ne hwv, ← view_update_of_ne hw, view, view, Function.update_of_ne hwv]

/-- **A cell that is released is gone for its owner.** -/
theorem Matched.view_release (h : Matched own cells) (hv : own v = some a) :
    view (Function.update own v none) (Function.update cells a none) =
      Function.update (view own cells) v none := by
  funext w
  by_cases hwv : w = v
  · rw [hwv, Function.update_self, view, Function.update_self, Option.bind_none]
  · have hw : own w ≠ some a := fun hw => hwv (h.once w v a hw hv)
    rw [Function.update_of_ne hwv, ← view_update_of_ne hw, view, view, Function.update_of_ne hwv]

end Ownership
