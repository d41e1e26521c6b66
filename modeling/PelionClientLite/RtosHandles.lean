import PelionClientLite.Lib.Ownership
import PelionClientLite.Lib.Run

/-!
# The RTOS handles of `setup.cpp`

A mutex or a semaphore of the platform layer is three things: a control block on the
heap, an object of the operating system whose memory lies in that block, and the
handle through which the caller knows the block.  Creating and deleting one couples
them, and each of the three may fail before the next.

## Main definitions

* `Handles` — the handle variables, the control blocks and the objects.
* `create`, `delete` — what the functions for mutexes and semaphores have in common.
* `HandleCall`, `HandleCall.perform` — the four functions.
* `Paired` — handles, blocks and objects correspond one to one.

## Main results

* `perform_spec` — one call keeps them so, and changes nothing where it returns `-1`.
* `handles_paired` — **after any calls the handles that are not zero, the blocks
  allocated and the objects alive correspond one to one; a call that fails changes
  nothing; and no block is read or freed that is not allocated.**
-/

namespace PelionClientLite

open Machine Ownership

/-- What `osMutexNew` or `osSemaphoreNew` is asked for. -/
inductive OsRequest where
  | mutex (recursive robust : Bool)
  | semaphore (maxCount count : ℕ)
  deriving DecidableEq, Repr

/-- The two kinds of objects. -/
inductive OsKind where
  | mutex
  | semaphore
  deriving DecidableEq, Repr

/-- The kind of object asked for. -/
def OsRequest.kind : OsRequest → OsKind
  | .mutex _ _ => .mutex
  | .semaphore _ _ => .semaphore

/-- An object of the operating system. -/
structure OsObject (α : Type*) where
  request : OsRequest
  /-- The block its memory lies in. -/
  cbMem : α

/-- `plat_mutex_t` or `plat_semaphore_t`. -/
structure ControlBlock (ω : Type*) where
  /-- `mutexID` or `semaphoreID`, zero being `none`. -/
  osId : Option ω

/-- Why a call does not come back. -/
inductive HandleFault where
  /-- A handle is read through that is no allocated block. -/
  | wildHandle
  /-- A block is freed that is not allocated. -/
  | wildFree
  /-- No such call is made, or no such answer given. -/
  | refused
  deriving DecidableEq, Repr

/-- The handle variables `ν`, the heap with addresses `α`, and the objects of the
operating system with identifiers `ω`. -/
structure Handles (ν α ω : Type*) where
  /-- The value of a handle variable, zero being `none`. -/
  var : ν → Option α
  /-- The control blocks that are allocated. -/
  blocks : α → Option (ControlBlock ω)
  /-- The objects that are alive. -/
  objects : ω → Option (OsObject α)

namespace Handles

variable {ν α ω : Type*}

/-- No handle, no block and no object. -/
def initial : Handles ν α ω := ⟨fun _ => none, fun _ => none, fun _ => none⟩

/-- The object a block names. -/
def osId (s : Handles ν α ω) (a : α) : Option ω := (s.blocks a).bind ControlBlock.osId

variable [DecidableEq ν] [DecidableEq α] [DecidableEq ω]

/-- `malloc`, which answers with a block that is not in use. -/
def malloc (s : Handles ν α ω) (a : α) : Except HandleFault (Handles ν α ω) :=
  if (s.blocks a).isSome then .error .refused
  else .ok { s with blocks := Function.update s.blocks a (some ⟨none⟩) }

/-- `free`. -/
def free (s : Handles ν α ω) (a : α) : Except HandleFault (Handles ν α ω) :=
  if (s.blocks a).isSome then .ok { s with blocks := Function.update s.blocks a none }
  else .error .wildFree

/-- `osMutexNew` or `osSemaphoreNew`, which fails with NULL or answers with a new object. -/
def osNew (s : Handles ν α ω) (request : OsRequest) (cbMem : α) :
    Option ω → Except HandleFault (Handles ν α ω)
  | none => .ok s
  | some id =>
      if (s.objects id).isSome then .error .refused
      else .ok { s with objects := Function.update s.objects id (some ⟨request, cbMem⟩) }

/-- `osMutexDelete` or `osSemaphoreDelete`, which may fail, and does so unless there is
such an object of that kind. -/
def osDelete (s : Handles ν α ω) (kind : OsKind) (granted : Bool) :
    Option ω → Bool × Handles ν α ω
  | none => (false, s)
  | some id =>
      if granted ∧ (s.objects id).map (fun o => o.request.kind) = some kind then
        (true, { s with objects := Function.update s.objects id none })
      else (false, s)

/-- `*mutexID = id` or `*semaphoreID = id`. -/
def setVar (s : Handles ν α ω) (v : ν) (value : Option α) : Handles ν α ω :=
  { s with var := Function.update s.var v value }

/-- What `plat_mutex_create` and `plat_semaphore_create` have in common.  A handle of
`none` is a NULL pointer; `mem` is what `malloc` answers, and `id` what the operating
system answers. -/
def create (request : OsRequest) (handle : Option ν) (mem : Option α) (id : Option ω)
    (s : Handles ν α ω) : Except HandleFault (ℤ × Handles ν α ω) :=
  match handle, mem with
  | none, _ => .ok (-1, s)
  | some _, none => .ok (-1, s)
  | some v, some a => do
      let s ← s.malloc a
      let s ← s.osNew request a id
      let s := { s with blocks := Function.update s.blocks a (some ⟨id⟩) }
      match id with
      | none =>
          let s ← s.free a
          return (-1, s)
      | some _ => return (0, s.setVar v (some a))

/-- What `plat_mutex_delete` and `plat_semaphore_delete` have in common. -/
def delete (kind : OsKind) (handle : Option ν) (granted : Bool) (s : Handles ν α ω) :
    Except HandleFault (ℤ × Handles ν α ω) :=
  match handle.bind fun v => (s.var v).map fun a => (v, a) with
  | none => .ok (-1, s)
  | some (v, a) =>
      match s.blocks a with
      | none => .error .wildHandle
      | some block =>
          match s.osDelete kind granted block.osId with
          | (false, s) => .ok (-1, s)
          | (true, s) => do
              let s ← s.free a
              return (0, s.setVar v none)

/-- `plat_mutex_create`. -/
def platMutexCreate (mutexID : Option ν) (mem : Option α) (id : Option ω) :
    Handles ν α ω → Except HandleFault (ℤ × Handles ν α ω) :=
  create (.mutex true true) mutexID mem id

/-- `plat_semaphore_create`. -/
def platSemaphoreCreate (count : ℕ) (semaphoreID : Option ν) (mem : Option α) (id : Option ω) :
    Handles ν α ω → Except HandleFault (ℤ × Handles ν α ω) :=
  create (.semaphore 1024 count) semaphoreID mem id

/-- `plat_mutex_delete`. -/
def platMutexDelete (mutexID : Option ν) (granted : Bool) :
    Handles ν α ω → Except HandleFault (ℤ × Handles ν α ω) :=
  delete .mutex mutexID granted

/-- `plat_semaphore_delete`. -/
def platSemaphoreDelete (semaphoreID : Option ν) (granted : Bool) :
    Handles ν α ω → Except HandleFault (ℤ × Handles ν α ω) :=
  delete .semaphore semaphoreID granted

end Handles

/-- A call of one of the four functions, with what the libraries answer. -/
inductive HandleCall (ν α ω : Type*) where
  | mutexCreate (mutexID : Option ν) (mem : Option α) (id : Option ω)
  | semaphoreCreate (count : ℕ) (semaphoreID : Option ν) (mem : Option α) (id : Option ω)
  | mutexDelete (mutexID : Option ν) (granted : Bool)
  | semaphoreDelete (semaphoreID : Option ν) (granted : Bool)

namespace HandleCall

variable {ν α ω : Type*} [DecidableEq ν] [DecidableEq α] [DecidableEq ω]

/-- What a call returns, and what it leaves behind. -/
def perform (s : Handles ν α ω) : HandleCall ν α ω → Except HandleFault (ℤ × Handles ν α ω)
  | .mutexCreate mutexID mem id => s.platMutexCreate mutexID mem id
  | .semaphoreCreate count semaphoreID mem id => s.platSemaphoreCreate count semaphoreID mem id
  | .mutexDelete mutexID granted => s.platMutexDelete mutexID granted
  | .semaphoreDelete semaphoreID granted => s.platSemaphoreDelete semaphoreID granted

/-- The handle variable something is to be created in. -/
def target : HandleCall ν α ω → Option ν
  | .mutexCreate mutexID _ _ => mutexID
  | .semaphoreCreate _ semaphoreID _ _ => semaphoreID
  | .mutexDelete _ _ | .semaphoreDelete _ _ => none

/-- What the libraries answer is not in use yet. -/
def Fresh (s : Handles ν α ω) : HandleCall ν α ω → Prop
  | .mutexCreate _ mem id | .semaphoreCreate _ _ mem id =>
      (∀ a, mem = some a → s.blocks a = none) ∧ ∀ i, id = some i → s.objects i = none
  | .mutexDelete _ _ | .semaphoreDelete _ _ => True

end HandleCall

namespace Handles

variable {ν α ω : Type*} [DecidableEq ν] [DecidableEq α] [DecidableEq ω]

/-- One call.  Nothing is created in a variable that holds a handle. -/
def step (s : Handles ν α ω) (call : HandleCall ν α ω) : Except HandleFault (Handles ν α ω) :=
  if (call.target.bind s.var).isSome then .error .refused
  else (call.perform s).map Prod.snd

/-! ### What one call does -/

/-- Something has been created. -/
def made (s : Handles ν α ω) (request : OsRequest) (v : ν) (a : α) (i : ω) : Handles ν α ω where
  var := Function.update s.var v (some a)
  blocks := Function.update s.blocks a (some ⟨some i⟩)
  objects := Function.update s.objects i (some ⟨request, a⟩)

/-- Something has been deleted. -/
def gone (s : Handles ν α ω) (v : ν) (a : α) (i : ω) : Handles ν α ω where
  var := Function.update s.var v none
  blocks := Function.update s.blocks a none
  objects := Function.update s.objects i none

variable {s : Handles ν α ω}

@[simp] theorem made_blocks (request : OsRequest) (v : ν) (a : α) (i : ω) :
    (s.made request v a i).blocks = Function.update s.blocks a (some ⟨some i⟩) := rfl

@[simp] theorem made_objects (request : OsRequest) (v : ν) (a : α) (i : ω) :
    (s.made request v a i).objects = Function.update s.objects i (some ⟨request, a⟩) := rfl

@[simp] theorem gone_blocks (v : ν) (a : α) (i : ω) :
    (s.gone v a i).blocks = Function.update s.blocks a none := rfl

@[simp] theorem gone_objects (v : ν) (a : α) (i : ω) :
    (s.gone v a i).objects = Function.update s.objects i none := rfl

/-- Creating is refused, or fails and changes nothing, or succeeds with a new block and a
new object. -/
theorem create_cases (request : OsRequest) (handle : Option ν) (mem : Option α)
    (id : Option ω) :
    (¬ ((∀ a, mem = some a → s.blocks a = none) ∧ ∀ i, id = some i → s.objects i = none) ∧
        s.create request handle mem id = .error .refused) ∨
      s.create request handle mem id = .ok (-1, s) ∨
      ∃ v a i, handle = some v ∧ s.blocks a = none ∧ s.objects i = none ∧
        s.create request handle mem id = .ok (0, s.made request v a i) := by
  cases handle with
  | none => exact Or.inr (Or.inl rfl)
  | some v =>
    cases mem with
    | none => exact Or.inr (Or.inl rfl)
    | some a =>
      cases ha : s.blocks a with
      | some block => exact Or.inl ⟨by simp [ha], by simp [create, malloc, ha]⟩
      | none =>
        cases id with
        | none =>
          -- the block is freed again, as if it had never been allocated
          have hback : Function.update s.blocks a none = s.blocks := by
            rw [← ha, Function.update_eq_self]
          exact Or.inr (Or.inl (by simp [create, malloc, osNew, free, ha, hback]))
        | some i =>
          cases hi : s.objects i with
          | some o => exact Or.inl ⟨by simp [hi], by simp [create, malloc, osNew, ha, hi]⟩
          | none =>
            refine Or.inr (Or.inr ⟨v, a, i, rfl, ha, hi, ?_⟩)
            simp [create, malloc, osNew, setVar, made, ha, hi]

/-- Deleting fails and changes nothing, or succeeds and takes block and object away,
unless the handle is no allocated block. -/
theorem delete_cases (kind : OsKind) (handle : Option ν) (granted : Bool)
    (hused : ∀ v a, s.var v = some a → ∃ block, s.blocks a = some block) :
    s.delete kind handle granted = .ok (-1, s) ∨
      ∃ v a i, s.var v = some a ∧ s.osId a = some i ∧
        s.delete kind handle granted = .ok (0, s.gone v a i) := by
  cases handle with
  | none => exact Or.inl rfl
  | some v =>
    cases hv : s.var v with
    | none => exact Or.inl (by simp [delete, hv])
    | some a =>
      obtain ⟨⟨osId⟩, hblock⟩ := hused v a hv
      cases osId with
      | none => exact Or.inl (by simp [delete, hv, hblock, osDelete])
      | some i =>
        by_cases hos : granted ∧ (s.objects i).map (fun o => o.request.kind) = some kind
        · right
          refine ⟨v, a, i, hv, by simp [Handles.osId, hblock], ?_⟩
          simp only [delete, Option.bind_some, hv, Option.map_some, hblock, osDelete, if_pos hos,
            free, Option.isSome_some, if_true, ok_bind, pure_eq_ok]
          rfl
        · left
          simp only [delete, Option.bind_some, hv, Option.map_some, hblock, osDelete, if_neg hos]

/-! ### Handles, blocks and objects -/

/-- Handles that are not zero, blocks and objects correspond one to one. -/
structure Paired (s : Handles ν α ω) : Prop where
  /-- Each handle is an allocated block of its own, and no block is leaked. -/
  handles : Matched s.var s.blocks
  /-- Each block names an object. -/
  filled : ∀ a block, s.blocks a = some block → ∃ i, block.osId = some i
  /-- It is alive and its own, and no object is leaked. -/
  objects : Matched s.osId s.objects
  /-- Its memory lies in the block. -/
  cbMem : ∀ a i o, s.osId a = some i → s.objects i = some o → o.cbMem = a

omit [DecidableEq ν] [DecidableEq α] [DecidableEq ω] in
theorem initial_paired : Paired (initial : Handles ν α ω) where
  handles := .empty
  filled a block h := by simp [initial] at h
  objects := .empty
  cbMem a i o h := by simp [initial, osId] at h

theorem Paired.made {request : OsRequest} {v : ν} {a : α} {i : ω} (h : Paired s)
    (hv : s.var v = none) (ha : s.blocks a = none) (hi : s.objects i = none) :
    Paired (s.made request v a i) := by
  have hosId : (s.made request v a i).osId = Function.update s.osId a (some i) := by
    funext b
    by_cases hb : b = a
    · simp [osId, Handles.made, hb]
    · simp [osId, Handles.made, hb]
  have ha' : s.osId a = none := by simp [osId, ha]
  refine ⟨h.handles.take ha _ hv, ?_, ?_, ?_⟩
  · intro b block hb
    by_cases hba : b = a
    · rw [made_blocks, hba, Function.update_self, Option.some.injEq] at hb
      exact ⟨i, by rw [← hb]⟩
    · rw [made_blocks, Function.update_of_ne hba] at hb
      exact h.filled b block hb
  · rw [hosId]
    exact h.objects.take hi _ ha'
  · intro b j o hb ho
    rw [hosId] at hb
    by_cases hba : b = a
    · rw [hba, Function.update_self, Option.some.injEq] at hb
      rw [made_objects, ← hb, Function.update_self, Option.some.injEq] at ho
      rw [← ho, hba]
    · rw [Function.update_of_ne hba] at hb
      have hji : j ≠ i := by
        rintro rfl
        obtain ⟨o', ho'⟩ := h.objects.used b j hb
        rw [hi] at ho'
        simp at ho'
      rw [made_objects, Function.update_of_ne hji] at ho
      exact h.cbMem b j o hb ho

theorem Paired.gone {v : ν} {a : α} {i : ω} (h : Paired s) (hv : s.var v = some a)
    (hi : s.osId a = some i) : Paired (s.gone v a i) := by
  have hosId : (s.gone v a i).osId = Function.update s.osId a none := by
    funext b
    by_cases hb : b = a
    · simp [osId, Handles.gone, hb]
    · simp [osId, Handles.gone, hb]
  refine ⟨h.handles.release hv, ?_, ?_, ?_⟩
  · intro b block hb
    by_cases hba : b = a
    · rw [gone_blocks, hba, Function.update_self] at hb
      simp at hb
    · rw [gone_blocks, Function.update_of_ne hba] at hb
      exact h.filled b block hb
  · rw [hosId]
    exact h.objects.release hi
  · intro b j o hb ho
    rw [hosId] at hb
    by_cases hba : b = a
    · rw [hba, Function.update_self] at hb
      simp at hb
    · rw [Function.update_of_ne hba] at hb
      have hji : j ≠ i := fun hji => hba (h.objects.once b a i (hji ▸ hb) hi)
      rw [gone_objects, Function.update_of_ne hji] at ho
      exact h.cbMem b j o hb ho

omit [DecidableEq ν] [DecidableEq α] [DecidableEq ω] in
/-- Each block holds exactly one live object. -/
theorem Paired.existsUnique_object (h : Paired s) {a : α} {block : ControlBlock ω}
    (ha : s.blocks a = some block) : ∃! i, ∃ o, s.objects i = some o ∧ o.cbMem = a := by
  obtain ⟨i, hi⟩ := h.filled a block ha
  have hosId : s.osId a = some i := by rw [osId, ha, Option.bind_some, hi]
  obtain ⟨o, ho⟩ := h.objects.used a i hosId
  refine ⟨i, ⟨o, ho, h.cbMem a i o hosId ho⟩, ?_⟩
  intro j hj
  obtain ⟨o', ho', hmem⟩ := hj
  obtain ⟨b, hb⟩ := h.objects.held j o' ho'
  have hba : b = a := (h.cbMem b j o' hb ho').symm.trans hmem
  rw [hba, hosId, Option.some.injEq] at hb
  exact hb.symm

/-- **One call** where nothing is created in a variable that holds a handle: it is refused,
or changes nothing and returns `-1`, or returns `0`; and it keeps everything paired. -/
theorem perform_spec (h : Paired s) (call : HandleCall ν α ω)
    (htarget : call.target.bind s.var = none) :
    (¬ call.Fresh s ∧ call.perform s = .error .refused) ∨ call.perform s = .ok (-1, s) ∨
      ∃ t, call.perform s = .ok (0, t) ∧ Paired t := by
  have hcreate : ∀ (request : OsRequest) (handle : Option ν) (mem : Option α) (id : Option ω),
      handle.bind s.var = none →
      (¬ ((∀ a, mem = some a → s.blocks a = none) ∧ ∀ i, id = some i → s.objects i = none) ∧
          s.create request handle mem id = .error .refused) ∨
        s.create request handle mem id = .ok (-1, s) ∨
        ∃ t, s.create request handle mem id = .ok (0, t) ∧ Paired t := by
    intro request handle mem id hvar
    rcases create_cases request handle mem id with hrefused | hfail | ⟨v, a, i, hv, ha, hi, hok⟩
    · exact Or.inl hrefused
    · exact Or.inr (Or.inl hfail)
    · rw [hv, Option.bind_some] at hvar
      exact Or.inr (Or.inr ⟨_, hok, h.made hvar ha hi⟩)
  have hdelete : ∀ (kind : OsKind) (handle : Option ν) (granted : Bool),
      s.delete kind handle granted = .ok (-1, s) ∨
        ∃ t, s.delete kind handle granted = .ok (0, t) ∧ Paired t := by
    intro kind handle granted
    rcases delete_cases kind handle granted h.handles.used with hfail | ⟨v, a, i, hv, hi, hok⟩
    · exact Or.inl hfail
    · exact Or.inr ⟨_, hok, h.gone hv hi⟩
  cases call with
  | mutexCreate mutexID mem id => exact hcreate _ mutexID mem id htarget
  | semaphoreCreate count semaphoreID mem id => exact hcreate _ semaphoreID mem id htarget
  | mutexDelete mutexID granted => exact Or.inr (hdelete _ mutexID granted)
  | semaphoreDelete semaphoreID granted => exact Or.inr (hdelete _ semaphoreID granted)

theorem step_paired {t : Handles ν α ω} {call : HandleCall ν α ω} (hstep : s.step call = .ok t)
    (h : Paired s) : Paired t := by
  unfold step at hstep
  split at hstep
  · simp at hstep
  · next htarget =>
    rw [Option.not_isSome_iff_eq_none] at htarget
    rcases perform_spec h call htarget with ⟨-, hr⟩ | hr | ⟨t', hr, ht'⟩ <;>
      rw [hr] at hstep <;> simp only [Except.map, reduceCtorEq, Except.ok.injEq] at hstep
    · exact hstep ▸ h
    · exact hstep ▸ ht'

end Handles

/-- **The handles neither leak nor are they freed twice.**  After any calls the handles that
are not zero, the blocks and the objects correspond one to one, and each block holds
exactly one live object.  Whatever call comes next, unless it would create something in
a variable that holds a handle, it comes back if what the libraries answer is not in use,
no block is read or freed that is not allocated, and if it returns `-1` nothing has
changed. -/
theorem handles_paired {ν α ω : Type*} [DecidableEq ν] [DecidableEq α] [DecidableEq ω]
    {calls : List (HandleCall ν α ω)} {s : Handles ν α ω}
    (h : run Handles.step .initial calls = .ok s) :
    s.Paired ∧
      (∀ a block, s.blocks a = some block → ∃! i, ∃ o, s.objects i = some o ∧ o.cbMem = a) ∧
      ∀ call : HandleCall ν α ω, call.target.bind s.var = none →
        (¬ call.Fresh s ∧ call.perform s = .error .refused) ∨
          ∃ status t, call.perform s = .ok (status, t) ∧ (status = -1 ∧ t = s ∨ status = 0) := by
  have hpaired : s.Paired :=
    run_invariant (fun _ _ _ hstep => Handles.step_paired hstep) h Handles.initial_paired
  refine ⟨hpaired, fun a block => hpaired.existsUnique_object, fun call htarget => ?_⟩
  rcases Handles.perform_spec hpaired call htarget with hrefused | hfail | ⟨t, hok, -⟩
  · exact Or.inl hrefused
  · exact Or.inr ⟨-1, s, hfail, Or.inl ⟨rfl, rfl⟩⟩
  · exact Or.inr ⟨0, t, hok, Or.inr rfl⟩

/-- A mutex is created; a semaphore fails for want of an object; the mutex is deleted, and
its block is used again for a semaphore. -/
theorem handles_paired_reuse :
    ∃ s : Handles Bool ℕ ℕ, run Handles.step .initial
        [.mutexCreate (some true) (some 1) (some 7), .semaphoreCreate 0 (some false) (some 2) none,
          .mutexDelete (some true) true, .semaphoreCreate 4 (some false) (some 1) (some 8)] =
        .ok s ∧ s.var false = some 1 ∧ s.Paired := by
  have hrun : ∃ s : Handles Bool ℕ ℕ, run Handles.step .initial
      [.mutexCreate (some true) (some 1) (some 7), .semaphoreCreate 0 (some false) (some 2) none,
        .mutexDelete (some true) true, .semaphoreCreate 4 (some false) (some 1) (some 8)] =
      .ok s ∧ s.var false = some 1 := ⟨_, rfl, rfl⟩
  obtain ⟨s, hs, hvar⟩ := hrun
  exact ⟨s, hs, hvar, (handles_paired hs).1⟩

end PelionClientLite
