import Mathlib.Data.List.Count
import PelionClientLite.Lib.Run

/-!
# Requests answered later, from one slot

A ledger records the requests a server has accepted and the answers it has sent,
newest first.  A server that answers later has to remember whom to answer; the
one-slot server remembers the last request only, and sends an answer to it every
time one of the answers it has scheduled falls due.

## Main definitions

* `outstanding` — the requests accepted and not yet answered.
* `AnsweredOnce` — each request has had exactly one answer, and no answer went
  to anything else.
* `OneSlot`, `OneSlot.step` — the one-slot server.
* `Spaced` — no request was accepted while an answer was still due.

## Main results

* `count_asked_eq_count_answered` — in a ledger answered once, every request has
  as many answers as it has been asked.
* `OneSlot.answeredOnce_iff_spaced` — **the one-slot server answers every request
  once exactly when the requests are spaced**, as long as no two outstanding
  requests share a key.
-/

namespace Ledger

/-- What a ledger records. -/
inductive Entry (ρ : Type*) where
  /-- A request was accepted. -/
  | asked (r : ρ) : Entry ρ
  /-- An answer was sent. -/
  | answered (r : ρ) : Entry ρ
  deriving DecidableEq, Repr

variable {ρ κ : Type*} [DecidableEq ρ]

/-- The requests accepted and not yet answered, newest first. -/
def outstanding : List (Entry ρ) → List ρ
  | [] => []
  | .asked r :: log => r :: outstanding log
  | .answered r :: log => (outstanding log).erase r

/-- Every answer went to a request that was outstanding when it was sent. -/
def AnswersOutstanding : List (Entry ρ) → Prop
  | [] => True
  | .asked _ :: log => AnswersOutstanding log
  | .answered r :: log => r ∈ outstanding log ∧ AnswersOutstanding log

/-- Every request has had exactly one answer: each answer went to a request that
had not had its own, and no request is left over. -/
def AnsweredOnce (log : List (Entry ρ)) : Prop := AnswersOutstanding log ∧ outstanding log = []

/-- Requests outstanding at the same time have different keys. -/
def KeysDistinct (key : ρ → κ) : List (Entry ρ) → Prop
  | [] => True
  | .asked r :: log => (∀ q ∈ outstanding log, key q ≠ key r) ∧ KeysDistinct key log
  | .answered _ :: log => KeysDistinct key log

/-- Each request was accepted when every earlier one had been given an answer. -/
def Spaced : List (Entry ρ) → Prop
  | [] => True
  | .asked _ :: log =>
      log.countP (· matches .asked _) = log.countP (· matches .answered _) ∧ Spaced log
  | .answered _ :: log => Spaced log

/-- What is asked is answered or outstanding. -/
theorem count_asked_eq {log : List (Entry ρ)} (h : AnswersOutstanding log) (r : ρ) :
    log.count (.asked r) = log.count (.answered r) + (outstanding log).count r := by
  induction log with
  | nil => rfl
  | cons e log ih =>
    cases e with
    | asked q =>
      have := ih h
      by_cases hq : q = r
      · subst hq
        simp [outstanding]
        omega
      · simp [outstanding, hq]
        omega
    | answered q =>
      have := ih h.2
      by_cases hq : q = r
      · subst hq
        have hpos : 0 < (outstanding log).count q := List.count_pos_iff.mpr h.1
        simp [outstanding, List.count_erase_self]
        omega
      · simp [outstanding, hq, List.count_erase_of_ne (Ne.symm hq)]
        omega

/-- In a ledger answered once, every request has as many answers as it has been
asked. -/
theorem count_asked_eq_count_answered {log : List (Entry ρ)} (h : AnsweredOnce log) (r : ρ) :
    log.count (.asked r) = log.count (.answered r) := by
  rw [count_asked_eq h.1, h.2, List.count_nil, Nat.add_zero]

/-! ### The one-slot server -/

/-- A server that remembers the last request it accepted, and how many answers
are still due. -/
structure OneSlot (ρ : Type*) where
  /-- The last request. -/
  slot : ρ
  /-- The answers scheduled and not yet sent. -/
  due : ℕ
  /-- What it has accepted and sent. -/
  log : List (Entry ρ)

namespace OneSlot

/-- What may happen to the server. -/
inductive Input (ρ : Type*) where
  /-- A request comes in: it is remembered, and an answer is scheduled. -/
  | ask (r : ρ) : Input ρ
  /-- A scheduled answer falls due and goes to the request remembered. -/
  | fire : Input ρ

/-- One step of the server. -/
def step (s : OneSlot ρ) : Input ρ → Except Unit (OneSlot ρ)
  | .ask r => .ok ⟨r, s.due + 1, .asked r :: s.log⟩
  | .fire =>
      if s.due = 0 then .error ()
      else .ok ⟨s.slot, s.due - 1, .answered s.slot :: s.log⟩

/-- The server before the first request; what its slot holds is of no account. -/
def initial (r : ρ) : OneSlot ρ := ⟨r, 0, []⟩

omit [DecidableEq ρ] in
theorem step_ask {s t : OneSlot ρ} {r : ρ} (h : step s (.ask r) = .ok t) :
    t = ⟨r, s.due + 1, .asked r :: s.log⟩ := by
  rw [step, Except.ok.injEq] at h
  exact h.symm

omit [DecidableEq ρ] in
theorem step_fire {s t : OneSlot ρ} (h : step s .fire = .ok t) :
    s.due ≠ 0 ∧ t = ⟨s.slot, s.due - 1, .answered s.slot :: s.log⟩ := by
  rw [step] at h
  split at h
  · simp at h
  · next hdue =>
    rw [Except.ok.injEq] at h
    exact ⟨hdue, h.symm⟩

/-- The answers due are the requests accepted less the answers sent. -/
def Counted (s : OneSlot ρ) : Prop :=
  s.log.countP (· matches .asked _) = s.log.countP (· matches .answered _) + s.due

omit [DecidableEq ρ] in
theorem step_counted {s t : OneSlot ρ} {i : Input ρ} (h : step s i = .ok t) (hs : Counted s) :
    Counted t := by
  cases i with
  | ask r =>
    have ht := step_ask h
    subst ht
    simp only [Counted, List.countP_cons] at hs ⊢
    simp only [if_pos, Bool.false_eq_true, if_false, hs]
    omega
  | fire =>
    obtain ⟨hdue, ht⟩ := step_fire h
    subst ht
    simp only [Counted, List.countP_cons] at hs ⊢
    simp only [if_pos, Bool.false_eq_true, if_false, hs]
    omega

/-- As long as requests are spaced, at most one is outstanding, and it is the one
remembered. -/
def Prompt (s : OneSlot ρ) : Prop :=
  AnswersOutstanding s.log ∧
    ((s.due = 0 ∧ outstanding s.log = []) ∨ (s.due = 1 ∧ outstanding s.log = [s.slot]))

/-- Some request is outstanding that is no longer remembered. -/
def Forgotten (key : ρ → κ) (s : OneSlot ρ) : Prop :=
  ∃ r ∈ outstanding s.log, key r ≠ key s.slot

/-- Both at once: a spaced server is prompt, any other has forgotten a request. -/
def Inv (key : ρ → κ) (s : OneSlot ρ) : Prop :=
  Counted s ∧ (Spaced s.log → Prompt s) ∧
    (¬ Spaced s.log → KeysDistinct key s.log → Forgotten key s)

theorem initial_inv (key : ρ → κ) (r : ρ) : Inv key (initial r) :=
  ⟨rfl, fun _ => ⟨trivial, Or.inl ⟨rfl, rfl⟩⟩, fun h _ => absurd trivial h⟩

/-- A spaced step finds nothing due if it asks, and one answer due if it fires. -/
theorem step_prompt {s t : OneSlot ρ} {i : Input ρ} (h : step s i = .ok t) (hcount : Counted s)
    (hprompt : Spaced s.log → Prompt s) (hsp : Spaced t.log) : Prompt t := by
  cases i with
  | ask r =>
    have ht := step_ask h
    subst ht
    obtain ⟨hbal, hsp⟩ := hsp
    obtain ⟨hans, hcase⟩ := hprompt hsp
    have hdue : s.due = 0 := by
      unfold Counted at hcount
      omega
    refine ⟨hans, Or.inr ⟨by simp [hdue], ?_⟩⟩
    rcases hcase with ⟨-, hout⟩ | ⟨hone, -⟩
    · simp [outstanding, hout]
    · omega
  | fire =>
    obtain ⟨hdue, ht⟩ := step_fire h
    subst ht
    obtain ⟨hans, hcase⟩ := hprompt hsp
    rcases hcase with ⟨hzero, -⟩ | ⟨hone, hout⟩
    · exact absurd hzero hdue
    · have hmem : s.slot ∈ outstanding s.log := by simp [hout]
      have hnone : (outstanding s.log).erase s.slot = [] := by simp [hout]
      exact ⟨⟨hmem, hans⟩, Or.inl ⟨by simp [hone], hnone⟩⟩

/-- A request once forgotten stays so, and one that comes too early makes the server
forget the one before it. -/
theorem step_forgotten (key : ρ → κ) {s t : OneSlot ρ} {i : Input ρ} (h : step s i = .ok t)
    (hs : Inv key s) (hsp : ¬ Spaced t.log) (hkeys : KeysDistinct key t.log) :
    Forgotten key t := by
  obtain ⟨hcount, hprompt, hforgot⟩ := hs
  cases i with
  | ask r =>
    have ht := step_ask h
    subst ht
    obtain ⟨hnew, hkeys⟩ := hkeys
    by_cases hsp' : Spaced s.log
    · obtain ⟨-, hcase⟩ := hprompt hsp'
      rcases hcase with ⟨hzero, -⟩ | ⟨-, hout⟩
      · have hbal : s.log.countP (· matches .asked _) = s.log.countP (· matches .answered _) := by
          unfold Counted at hcount
          omega
        exact absurd ⟨hbal, hsp'⟩ hsp
      · have hmem : s.slot ∈ outstanding s.log := by simp [hout]
        exact ⟨s.slot, List.mem_cons_of_mem _ hmem, hnew s.slot hmem⟩
    · obtain ⟨q, hq, -⟩ := hforgot hsp' hkeys
      exact ⟨q, List.mem_cons_of_mem _ hq, hnew q hq⟩
  | fire =>
    obtain ⟨-, ht⟩ := step_fire h
    subst ht
    -- the answer goes to the request remembered, which is another one
    obtain ⟨q, hq, hne⟩ := hforgot hsp hkeys
    have hqs : q ≠ s.slot := by
      intro heq
      exact hne (by rw [heq])
    exact ⟨q, (List.mem_erase_of_ne hqs).mpr hq, hne⟩

theorem step_inv (key : ρ → κ) {s t : OneSlot ρ} {i : Input ρ} (h : step s i = .ok t)
    (hs : Inv key s) : Inv key t :=
  ⟨step_counted h hs.1, step_prompt h hs.1 hs.2.1, step_forgotten key h hs⟩

/-- **The one-slot server answers every request once exactly when the requests
are spaced.**  The run is over when no answer is due any more. -/
theorem answeredOnce_iff_spaced (key : ρ → κ) {r : ρ} {is : List (Input ρ)} {t : OneSlot ρ}
    (hrun : Machine.run step (initial r) is = .ok t) (hkeys : KeysDistinct key t.log)
    (hdue : t.due = 0) : AnsweredOnce t.log ↔ Spaced t.log := by
  obtain ⟨-, hprompt, hforgot⟩ := Machine.run_invariant (I := Inv key)
    (fun s i t h hs => step_inv key h hs) hrun (initial_inv key r)
  constructor
  · intro honce
    by_contra hsp
    obtain ⟨q, hq, -⟩ := hforgot hsp hkeys
    rw [honce.2] at hq
    exact List.not_mem_nil hq
  · intro hsp
    obtain ⟨hans, hcase⟩ := hprompt hsp
    rcases hcase with ⟨-, hout⟩ | ⟨hone, -⟩
    · exact ⟨hans, hout⟩
    · omega

end OneSlot

end Ledger
