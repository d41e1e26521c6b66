import PelionClientLite.RtosObjects

/-!
# Waiting for RTOS objects

A thread that waits for a mutex or a semaphore is given a handle, reads the block of it,
waits, and goes back to the block for the count if it is a semaphore.  Others may come in
between, delete what it waits for, and use its block again.

Here a wait is taken apart at these places: before the block is read, while the operating
system has not answered, and before the count is read.  The calls that do not wait are one
step each; what could come in between within one of them is not looked at.

## Main definitions

* `Wait`, `RtosWaits` — the calls that wait, and what has happened.
* `WaitInput`, `RtosWaits.step` — the steps of the threads.
* `Overtaken` — the block of a thread has been freed since its call was made.
* `Deleted` — what a thread waits for has been deleted since it began to wait.
* `Bank.move` — a wait as what it is for: one acquisition.

## Main results

* `RtosWaits.Sound.step` — every step keeps what is known of the threads that wait.
* `rtosWaits_linearize` — **in any interleaving of these steps each wait acquires the object
  that its block stands for, at the moment the operating system answers, which is that of
  its variable if the call has not been overtaken; and a block is read that is not allocated
  only by a call that has been.**
-/

namespace PelionClientLite

open Machine Ownership

/-! ### The threads that wait -/

/-- Where a thread is in a function that waits. -/
inductive WaitPoint where
  /-- It has been given a handle that is not zero, and has not read the block yet. -/
  | called
  /-- In `osMutexAcquire` or `osSemaphoreAcquire`. -/
  | waiting
  /-- There still, but the object it waits for has been deleted. -/
  | deleted
  /-- The operating system has answered, and the count is to be read. -/
  | answered (platStatus : OsStatus)
  deriving DecidableEq, Repr

/-- A call of `plat_mutex_wait` or `plat_semaphore_wait` that has not returned. -/
structure Wait (ν α ω : Type) where
  /-- The variable whose value it has been given. -/
  var : ν
  handle : α
  kind : OsKind
  /-- No timeout is `osWaitForever`. -/
  timeout : Option ℕ
  countersAvailable : Bool
  /-- What it has read from the block. -/
  osId : Option ω := none
  point : WaitPoint := .called

/-- What has happened, newest first in `RtosWaits.log`. -/
inductive WaitEntry (ν α θ : Type) where
  /-- Something is created, in a variable and a block. -/
  | made (v : ν) (a : α)
  /-- A block is freed. -/
  | freed (a : α)
  /-- A thread calls with the handle of a variable. -/
  | called (thread : θ) (v : ν) (a : α)
  /-- It has read the block, and begins to wait. -/
  | entered (thread : θ) (a : α)
  /-- Its call returns. -/
  | returned (thread : θ) (v : ν) (r : RtosResult)
  deriving DecidableEq

/-- The handles and the objects, and the threads that wait. -/
structure RtosWaits (ν α ω θ σ : Type) where
  rtos : RtosState ν α ω θ σ
  waits : θ → Option (Wait ν α ω) := fun _ => none
  log : List (WaitEntry ν α θ) := []

/-- What may happen. -/
inductive WaitInput (ν α ω θ : Type) where
  /-- A call that nothing comes in between. -/
  | call (call : RtosCall ν α ω θ)
  /-- A thread calls `plat_mutex_wait`. -/
  | mutexWait (thread : θ) (v : ν)
  /-- A thread calls `plat_semaphore_wait`. -/
  | semaphoreWait (thread : θ) (v : ν) (millisec : ℕ) (countersAvailable : Bool)
  /-- A thread reads the block of its handle, and begins to wait. -/
  | acquire (thread : θ)
  /-- The operating system answers a thread that waits. -/
  | answer (thread : θ) (platStatus : OsStatus)
  /-- A thread reads the count, and returns. -/
  | count (thread : θ)

namespace Wait

variable {ν α ω : Type}

/-- What the call returns. -/
def status (w : Wait ν α ω) (platStatus : OsStatus) : ℤ :=
  match w.kind with
  | .mutex => if platStatus = .ok then 0 else -1
  | .semaphore =>
      if platStatus = .errorTimeout then -2
      else if platStatus ≠ .ok then -3
      else 0

/-- A thread that waits for an object that is no longer alive is woken up. -/
def notice (handles : Handles ν α ω) (w : Wait ν α ω) : Wait ν α ω :=
  match w.point with
  | .waiting =>
      if (w.osId.bind handles.objects).isSome then w else { w with point := .deleted }
  | _ => w

end Wait

/-- The variable a call creates or deletes something in. -/
def HandleCall.variable {ν α ω : Type} : HandleCall ν α ω → Option ν
  | .mutexCreate mutexID _ _ => mutexID
  | .semaphoreCreate _ semaphoreID _ _ => semaphoreID
  | .mutexDelete mutexID _ => mutexID
  | .semaphoreDelete semaphoreID _ => semaphoreID

/-- What a call has created or freed, by what it has done to its variable. -/
def RtosCall.entries {ν α ω θ : Type} (s t : Handles ν α ω) :
    RtosCall ν α ω θ → List (WaitEntry ν α θ)
  | .handle call =>
      match call.variable with
      | none => []
      | some v =>
          match s.var v, t.var v with
          | none, some a => [.made v a]
          | some a, none => [.freed a]
          | _, _ => []
  | _ => []

namespace RtosWaits

variable {ν α ω θ σ : Type} [DecidableEq ν] [DecidableEq α] [DecidableEq ω] [DecidableEq θ]

/-- A thread is given a handle, and returns at once if it is zero. -/
def enter (thread : θ) (v : ν) (kind : OsKind) (timeout : Option ℕ) (countersAvailable : Bool)
    (s : RtosWaits ν α ω θ σ) : Except HandleFault (RtosWaits ν α ω θ σ) :=
  match s.waits thread, s.rtos.handles.var v with
  | some _, _ => .error .refused
  | none, none => .ok { s with log := .returned thread v ⟨-1, none⟩ :: s.log }
  | none, some a =>
      let w : Wait ν α ω := { var := v, handle := a, kind, timeout, countersAvailable }
      .ok { s with waits := Function.update s.waits thread (some w),
                   log := .called thread v a :: s.log }

/-- A thread begins to wait for what it has read from the block. -/
def begins (thread : θ) (w : Wait ν α ω) (osId : Option ω) (s : RtosWaits ν α ω θ σ) :
    RtosWaits ν α ω θ σ :=
  { s with waits := Function.update s.waits thread (some { w with osId, point := .waiting }),
           log := .entered thread w.handle :: s.log }

/-- The call of a thread returns. -/
def returns (thread : θ) (w : Wait ν α ω) (r : RtosResult) (s : RtosWaits ν α ω θ σ) :
    RtosWaits ν α ω θ σ :=
  { s with waits := Function.update s.waits thread none,
           log := .returned thread w.var r :: s.log }

/-- A thread whose acquisition has been answered goes on to the count, or returns. -/
def goOn (thread : θ) (w : Wait ν α ω) (platStatus : OsStatus) (s : RtosWaits ν α ω θ σ) :
    RtosWaits ν α ω θ σ :=
  if w.countersAvailable then
    { s with waits :=
        Function.update s.waits thread (some { w with point := .answered platStatus }) }
  else s.returns thread w ⟨w.status platStatus, none⟩

/-- One step of one thread.  What waits for an object that has been deleted gets some other
answer than `osOK`. -/
def step (rtos : Rtos θ σ) (s : RtosWaits ν α ω θ σ) :
    WaitInput ν α ω θ → Except HandleFault (RtosWaits ν α ω θ σ)
  | .call call => do
      let next ← s.rtos.step rtos call
      return { rtos := next, waits := fun thread => (s.waits thread).map (·.notice next.handles),
               log := call.entries s.rtos.handles next.handles ++ s.log }
  | .mutexWait thread v => s.enter thread v .mutex none false
  | .semaphoreWait thread v millisec countersAvailable =>
      s.enter thread v .semaphore (some millisec) countersAvailable
  | .acquire thread =>
      match s.waits thread with
      | none => .error .refused
      | some w =>
          match w.point with
          | .called => do
              let block ← s.rtos.deref w.handle
              return s.begins thread w block.osId
          | _ => .error .refused
  | .answer thread platStatus =>
      match s.waits thread with
      | none => .error .refused
      | some w =>
          match w.point with
          | .waiting => do
              let next ← s.rtos.osPerform rtos w.kind (.acquire thread w.timeout) platStatus w.osId
              return { s with rtos := next }.goOn thread w platStatus
          | .deleted =>
              if platStatus = .ok then .error .refused else .ok (s.goOn thread w platStatus)
          | _ => .error .refused
  | .count thread =>
      match s.waits thread with
      | none => .error .refused
      | some w =>
          match w.point with
          -- the block is read once more
          | .answered platStatus => do
              let block ← s.rtos.deref w.handle
              return s.returns thread w
                ⟨w.status platStatus, some (s.rtos.osSemaphoreGetCount rtos block.osId)⟩
          | _ => .error .refused

end RtosWaits

/-! ### What has become of a block -/

section Log

variable {ν α θ : Type} [DecidableEq α]

/-- The entry tells what has become of this block. -/
def WaitEntry.isAbout (a : α) : WaitEntry ν α θ → Bool
  | .made _ b => b = a
  | .freed b => b = a
  | _ => false

/-- The variable this block has been allocated for, unless it has been freed since. -/
def holder (log : List (WaitEntry ν α θ)) (a : α) : Option ν :=
  (log.find? (·.isAbout a)).bind fun
    | .made v _ => some v
    | _ => none

theorem holder_made (log : List (WaitEntry ν α θ)) (v : ν) (a : α) :
    holder (.made v a :: log) = Function.update (holder log) a (some v) := by
  funext b
  by_cases hb : a = b
  · subst hb
    simp [holder, WaitEntry.isAbout]
  · rw [Function.update_of_ne (Ne.symm hb)]
    simp [holder, WaitEntry.isAbout, hb]

theorem holder_freed (log : List (WaitEntry ν α θ)) (a : α) :
    holder (.freed a :: log) = Function.update (holder log) a none := by
  funext b
  by_cases hb : a = b
  · subst hb
    simp [holder, WaitEntry.isAbout]
  · rw [Function.update_of_ne (Ne.symm hb)]
    simp [holder, WaitEntry.isAbout, hb]

@[simp] theorem holder_called (log : List (WaitEntry ν α θ)) (thread : θ) (v : ν) (a : α) :
    holder (.called thread v a :: log) = holder log := rfl

@[simp] theorem holder_entered (log : List (WaitEntry ν α θ)) (thread : θ) (a : α) :
    holder (.entered thread a :: log) = holder log := rfl

@[simp] theorem holder_returned (log : List (WaitEntry ν α θ)) (thread : θ) (v : ν)
    (r : RtosResult) : holder (.returned thread v r :: log) = holder log := rfl

variable [DecidableEq ν] [DecidableEq θ] {ω : Type}

/-- The block has been freed since this entry was made last. -/
def FreedSince (mark : WaitEntry ν α θ) (log : List (WaitEntry ν α θ)) (a : α) : Prop :=
  .freed a ∈ log.takeWhile (· ≠ mark)

/-- One entry more. -/
theorem freedSince_cons {mark e : WaitEntry ν α θ} {log : List (WaitEntry ν α θ)} {a : α} :
    FreedSince mark (e :: log) a ↔ e ≠ mark ∧ (e = .freed a ∨ FreedSince mark log a) := by
  by_cases he : e = mark
  · simp [FreedSince, he]
  · rw [FreedSince, List.takeWhile_cons_of_pos (by simpa using he), List.mem_cons]
    exact (or_congr_left eq_comm).trans (and_iff_right he).symm

/-- Where the mark has just been made, nothing has been freed since. -/
theorem not_freedSince_cons_self {mark : WaitEntry ν α θ} {log : List (WaitEntry ν α θ)} {a : α} :
    ¬ FreedSince mark (mark :: log) a :=
  fun h => (freedSince_cons.mp h).1 rfl

/-- What becomes of other blocks, and of other threads, does not matter. -/
theorem freedSince_cons_of_ne {mark e : WaitEntry ν α θ} {log : List (WaitEntry ν α θ)} {a : α}
    (hmark : e ≠ mark) (hfreed : e ≠ .freed a) :
    FreedSince mark (e :: log) a ↔ FreedSince mark log a := by
  rw [freedSince_cons, and_iff_right hmark, or_iff_right hfreed]

/-- The entry is not one by which this thread calls or begins to wait. -/
def WaitEntry.IsOther (e : WaitEntry ν α θ) (thread : θ) : Prop :=
  (∀ v a, e ≠ .called thread v a) ∧ ∀ a, e ≠ .entered thread a

/-- The block of this thread has been freed since its call was made. -/
def Overtaken (log : List (WaitEntry ν α θ)) (thread : θ) (w : Wait ν α ω) : Prop :=
  FreedSince (.called thread w.var w.handle) log w.handle

/-- The block of this thread has been freed, and with it what it waits for deleted, since it
began to wait. -/
def Deleted (log : List (WaitEntry ν α θ)) (thread : θ) (w : Wait ν α ω) : Prop :=
  FreedSince (.entered thread w.handle) log w.handle

end Log

/-! ### What is known of the threads that wait -/

/-- What creating or deleting comes to, where nothing is created in a variable that holds a
handle: nothing, or something has been created, or deleted. -/
theorem HandleCall.perform_cases {ν α ω : Type} [DecidableEq ν] [DecidableEq α] [DecidableEq ω]
    {s t : Handles ν α ω} {call : HandleCall ν α ω} {status : ℤ}
    (htarget : call.target.bind s.var = none) (h : call.perform s = .ok (status, t)) :
    t = s ∨
      (∃ request v a i, call.variable = some v ∧ s.var v = none ∧ s.blocks a = none ∧
        s.objects i = none ∧ t = s.made request v a i) ∨
      ∃ v a i, call.variable = some v ∧ s.var v = some a ∧ s.osId a = some i ∧
        t = s.gone v a i := by
  have hcreate : ∀ {request : OsRequest} {handle : Option ν} {mem : Option α} {id : Option ω},
      handle.bind s.var = none → s.create request handle mem id = .ok (status, t) →
      t = s ∨ ∃ request v a i, handle = some v ∧ s.var v = none ∧ s.blocks a = none ∧
        s.objects i = none ∧ t = s.made request v a i := by
    intro request handle mem id hvar h
    rcases Handles.create_spec h with ⟨v, a, i, rfl, -, -, ha, hi, -, rfl⟩ | ⟨-, -, rfl⟩
    · exact Or.inr ⟨request, v, a, i, rfl, hvar, ha, hi, rfl⟩
    · exact Or.inl rfl
  have hdelete : ∀ {kind : OsKind} {handle : Option ν} {granted : Bool},
      s.delete kind handle granted = .ok (status, t) →
      t = s ∨ ∃ v a i, handle = some v ∧ s.var v = some a ∧ s.osId a = some i ∧
        t = s.gone v a i := by
    intro kind handle granted h
    rcases Handles.delete_spec h with ⟨v, a, i, rfl, hv, hi, -, -, rfl⟩ | ⟨-, -, rfl⟩
    · exact Or.inr ⟨v, a, i, rfl, hv, hi, rfl⟩
    · exact Or.inl rfl
  cases call with
  | mutexCreate mutexID mem id => exact (hcreate htarget h).imp_right Or.inl
  | semaphoreCreate count semaphoreID mem id => exact (hcreate htarget h).imp_right Or.inl
  | mutexDelete mutexID granted => exact (hdelete h).imp_right Or.inr
  | semaphoreDelete semaphoreID granted => exact (hdelete h).imp_right Or.inr

/-- What a call that nothing comes in between does to the handles, and what it says of it. -/
theorem RtosState.step_handles {ν α ω θ σ : Type} [DecidableEq ν] [DecidableEq α] [DecidableEq ω]
    {rtos : Rtos θ σ} {s t : RtosState ν α ω θ σ} {call : RtosCall ν α ω θ}
    (hs : s.handles.Paired) (h : s.step rtos call = .ok t) :
    (t.handles = s.handles ∧ call.entries s.handles t.handles = []) ∨
      (∃ request v a i, s.handles.var v = none ∧ s.handles.blocks a = none ∧
        s.handles.objects i = none ∧ t.handles = s.handles.made request v a i ∧
        call.entries s.handles t.handles = [.made v a]) ∨
      ∃ v a i, s.handles.var v = some a ∧ s.handles.osId a = some i ∧
        t.handles = s.handles.gone v a i ∧ call.entries s.handles t.handles = [.freed a] := by
  have hstep : ∃ r u, s.perform rtos call = .ok (r, u) ∧ t.handles = u.handles := by
    unfold step at h
    cases hperform : s.perform rtos call with
    | error e => simp [hperform, Except.map] at h
    | ok next =>
      simp only [hperform, Except.map, Except.ok.injEq] at h
      exact ⟨next.1, next.2, rfl, h ▸ rfl⟩
  obtain ⟨r, u, hperform, hhandles⟩ := hstep
  rw [hhandles]
  cases call with
  | mutexWait v thread platStatus => exact Or.inl ⟨(use_refines hs hperform).1, rfl⟩
  | mutexRelease v thread platStatus => exact Or.inl ⟨(use_refines hs hperform).1, rfl⟩
  | semaphoreRelease v thread platStatus => exact Or.inl ⟨(use_refines hs hperform).1, rfl⟩
  | semaphoreWait v thread millisec countersAvailable platStatus =>
    exact Or.inl ⟨(platSemaphoreWait_refines hs hperform).1, rfl⟩
  | handle call =>
    obtain ⟨status, handles, htarget, hcall, -, hu⟩ := performHandle_ok hperform
    rw [hu, setUp_handles]
    rcases HandleCall.perform_cases htarget hcall with
      heq | ⟨request, v, a, i, hvar, hv, ha, hi, heq⟩ | ⟨v, a, i, hvar, hv, hi, heq⟩
    · refine Or.inl ⟨heq, ?_⟩
      rw [heq, RtosCall.entries]
      cases call.variable with
      | none => rfl
      | some v => cases hv : s.handles.var v <;> simp [hv]
    · refine Or.inr (Or.inl ⟨request, v, a, i, hv, ha, hi, heq, ?_⟩)
      simp [RtosCall.entries, heq, hvar, hv, Handles.made]
    · refine Or.inr (Or.inr ⟨v, a, i, hv, hi, heq, ?_⟩)
      simp [RtosCall.entries, heq, hvar, hv, Handles.gone]

namespace Wait

variable {ν α ω θ : Type} [DecidableEq ν] [DecidableEq α] [DecidableEq ω] [DecidableEq θ]
  {handles : Handles ν α ω} {log : List (WaitEntry ν α θ)} {thread : θ} {w : Wait ν α ω}

/-- As long as a call has not been overtaken, its variable holds the handle still.  A thread
that waits, does so for the object that its block holds, and is woken up when that is
deleted. -/
structure Tracked (handles : Handles ν α ω) (log : List (WaitEntry ν α θ)) (thread : θ)
    (w : Wait ν α ω) : Prop where
  own : ¬ Overtaken log thread w → handles.var w.var = some w.handle
  block : w.point = .waiting → ∃ i, handles.osId w.handle = some i ∧ w.osId = some i
  waiting : w.point = .waiting → ¬ Deleted log thread w
  deleted : w.point = .deleted → Deleted log thread w

omit [DecidableEq ω] in
/-- What happens to no handle does not matter. -/
theorem Tracked.cons (hw : w.Tracked handles log thread) {e : WaitEntry ν α θ}
    (hother : e.IsOther thread) (hfreed : e ≠ .freed w.handle) :
    w.Tracked handles (e :: log) thread where
  own h := hw.own fun hlog => h ((freedSince_cons_of_ne (hother.1 _ _) hfreed).mpr hlog)
  block := hw.block
  waiting h hlog := hw.waiting h ((freedSince_cons_of_ne (hother.2 _) hfreed).mp hlog)
  deleted h := (freedSince_cons_of_ne (hother.2 _) hfreed).mpr (hw.deleted h)

omit [DecidableEq ω] in
/-- Nobody who waits for an object that is alive is woken up. -/
theorem Tracked.notice_eq (hw : w.Tracked handles log thread) (hhandles : handles.Paired)
    {t : Handles ν α ω} (hkeeps : ∀ i, (handles.objects i).isSome → handles.osId w.handle = some i →
      (t.objects i).isSome) : w.notice t = w := by
  unfold notice
  split
  · next hpoint =>
    obtain ⟨i, hi, hosId⟩ := hw.block hpoint
    obtain ⟨o, ho⟩ := hhandles.objects.used w.handle i hi
    have halive : (w.osId.bind t.objects).isSome := by
      rw [hosId, Option.bind_some]
      exact hkeeps i (by rw [ho, Option.isSome_some]) hi
    rw [if_pos halive]
  · rfl

/-- Creating something is nothing to those who wait. -/
theorem Tracked.made (hw : w.Tracked handles log thread) {request : OsRequest} {v : ν} {a : α}
    {i : ω} (hv : handles.var v = none) (ha : handles.blocks a = none) :
    w.Tracked (handles.made request v a i) (.made v a :: log) thread := by
  have hcons : w.Tracked handles (.made v a :: log) thread :=
    hw.cons ⟨by simp, by simp⟩ (by simp)
  refine ⟨fun hlog => ?_, fun hpoint => ?_, hcons.waiting, hcons.deleted⟩
  · have hvar := hcons.own hlog
    have hvw : w.var ≠ v := by
      rintro rfl
      rw [hv] at hvar
      simp at hvar
    show Function.update handles.var v (some a) w.var = _
    rw [Function.update_of_ne hvw, hvar]
  · obtain ⟨j, hj, hosId⟩ := hcons.block hpoint
    have haw : w.handle ≠ a := by
      rintro rfl
      simp [Handles.osId, ha] at hj
    exact ⟨j, by rw [Handles.osId_made, Function.update_of_ne haw, hj], hosId⟩

omit [DecidableEq ν] [DecidableEq α] [DecidableEq ω] in
@[simp] theorem notice_var : (w.notice handles).var = w.var := by
  unfold notice
  split
  · split <;> rfl
  · rfl

omit [DecidableEq ν] [DecidableEq α] [DecidableEq ω] in
@[simp] theorem notice_handle : (w.notice handles).handle = w.handle := by
  unfold notice
  split
  · split <;> rfl
  · rfl

omit [DecidableEq ω] in
theorem overtaken_notice : Overtaken log thread (w.notice handles) ↔ Overtaken log thread w := by
  rw [Overtaken, Overtaken, notice_var, notice_handle]

omit [DecidableEq ω] in
theorem deleted_notice : Deleted log thread (w.notice handles) ↔ Deleted log thread w := by
  rw [Deleted, Deleted, notice_handle]

/-- Deleting something overtakes those who wait for it, and wakes them up. -/
theorem Tracked.gone (hw : w.Tracked handles log thread) (hhandles : handles.Paired) {v : ν}
    {a : α} {i : ω} (hv : handles.var v = some a) (hi : handles.osId a = some i) :
    (w.notice (handles.gone v a i)).Tracked (handles.gone v a i) (.freed a :: log) thread := by
  by_cases haw : w.handle = a
  · have hovertaken : Overtaken (.freed a :: log) thread w :=
      freedSince_cons.mpr ⟨by simp, Or.inl (by rw [haw])⟩
    have hdeleted : Deleted (.freed a :: log) thread w :=
      freedSince_cons.mpr ⟨by simp, Or.inl (by rw [haw])⟩
    -- the object it waits for is the one that goes
    have hnot : (w.notice (handles.gone v a i)).point ≠ .waiting := by
      intro hpoint
      unfold notice at hpoint
      split at hpoint
      · next hwaiting =>
        obtain ⟨j, hj, hosId⟩ := hw.block hwaiting
        rw [haw, hi] at hj
        simp [hosId, ← hj] at hpoint
      · next hno => exact hno hpoint
    exact ⟨fun hno => absurd (overtaken_notice.mpr hovertaken) hno,
      fun hpoint => absurd hpoint hnot, fun hpoint => absurd hpoint hnot,
      fun _ => deleted_notice.mpr hdeleted⟩
  · have hcons : w.Tracked handles (.freed a :: log) thread :=
      hw.cons ⟨by simp, by simp⟩ (by simpa [eq_comm] using haw)
    have hsame : w.notice (handles.gone v a i) = w := by
      refine hw.notice_eq hhandles fun j hj hosId => ?_
      have hji : j ≠ i := by
        rintro rfl
        exact haw (hhandles.objects.once w.handle a j hosId hi)
      rw [Handles.gone_objects, Function.update_of_ne hji]
      exact hj
    rw [hsame]
    refine ⟨fun hlog => ?_, fun hpoint => ?_, hcons.waiting, hcons.deleted⟩
    · have hvar := hcons.own hlog
      have hvw : w.var ≠ v := by
        rintro rfl
        rw [hv, Option.some.injEq] at hvar
        exact haw hvar.symm
      show Function.update handles.var v none w.var = _
      rw [Function.update_of_ne hvw, hvar]
    · obtain ⟨j, hj, hosId⟩ := hcons.block hpoint
      exact ⟨j, by rw [Handles.osId_gone, Function.update_of_ne haw, hj], hosId⟩

end Wait

namespace RtosWaits

variable {ν α ω θ σ : Type} [DecidableEq ν] [DecidableEq α] [DecidableEq ω] [DecidableEq θ]
  {rtos : Rtos θ σ} {s t : RtosWaits ν α ω θ σ} {thread : θ} {w : Wait ν α ω}

/-- What is known of a state: handles, blocks and objects are paired, the log tells who
holds which block, and the threads that wait are tracked. -/
structure Sound (s : RtosWaits ν α ω θ σ) : Prop where
  paired : s.rtos.handles.Paired
  holders : Inverse s.rtos.handles.var (holder s.log)
  waits : ∀ thread (w : Wait ν α ω), s.waits thread = some w →
    w.Tracked s.rtos.handles s.log thread

omit [DecidableEq ω] in
/-- Where no handle is touched, it is enough to look at the thread that goes on. -/
theorem Sound.goesOn (hs : s.Sound) {next : RtosState ν α ω θ σ} {log : List (WaitEntry ν α θ)}
    {x : Option (Wait ν α ω)} (hnext : next.handles = s.rtos.handles)
    (hholder : holder log = holder s.log)
    (hother : ∀ other (w : Wait ν α ω), other ≠ thread →
      w.Tracked s.rtos.handles s.log other → w.Tracked s.rtos.handles log other)
    (hx : ∀ w : Wait ν α ω, x = some w → w.Tracked s.rtos.handles log thread) :
    Sound { rtos := next, waits := Function.update s.waits thread x, log } where
  paired := hnext ▸ hs.paired
  holders := by
    show Inverse next.handles.var (holder log)
    rw [hnext, hholder]
    exact hs.holders
  waits other w hw := by
    show w.Tracked next.handles log other
    rw [hnext]
    change Function.update s.waits thread x other = some w at hw
    by_cases hsame : other = thread
    · rw [hsame, Function.update_self] at hw
      exact hsame ▸ hx w hw
    · rw [Function.update_of_ne hsame] at hw
      exact hother other w hsame (hs.waits other w hw)

omit [DecidableEq ω] in
/-- A block that is not allocated is held by no variable. -/
theorem Sound.holder_eq_none (hs : s.Sound) {a : α} :
    holder s.log a = none ↔ s.rtos.handles.blocks a = none := by
  constructor
  · intro ha
    cases hblock : s.rtos.handles.blocks a with
    | none => rfl
    | some block =>
      obtain ⟨v, hv⟩ := hs.paired.handles.held a block hblock
      rw [(hs.holders v a).mp hv] at ha
      simp at ha
  · intro ha
    cases hholder : holder s.log a with
    | none => rfl
    | some v =>
      obtain ⟨block, hblock⟩ := hs.paired.handles.used v a ((hs.holders v a).mpr hholder)
      rw [ha] at hblock
      simp at hblock

omit [DecidableEq ω] in
/-- A block that can be read holds an object. -/
theorem Sound.exists_osId_of_deref (hs : s.Sound) {a : α} {block : ControlBlock ω}
    (h : s.rtos.deref a = .ok block) :
    ∃ i, block.osId = some i ∧ s.rtos.handles.osId a = some i := by
  unfold RtosState.deref at h
  split at h
  · simp at h
  · next block' hblock =>
    rw [Except.ok.injEq] at h
    subst h
    obtain ⟨i, hi⟩ := hs.paired.filled a block' hblock
    exact ⟨i, hi, by rw [Handles.osId, hblock, Option.bind_some, hi]⟩

/-- A call that nothing comes in between. -/
theorem Sound.call (hs : s.Sound) {call : RtosCall ν α ω θ} (h : s.step rtos (.call call) = .ok t) :
    t.Sound := by
  obtain ⟨next, hnext, rfl⟩ := bind_pure_eq_ok.mp h
  have hpaired : next.handles.Paired := (RtosState.step_refines hs.paired hnext).1
  -- those who are not woken up wait as before
  have hwaits : ∀ {log : List (WaitEntry ν α θ)},
      (∀ other (w : Wait ν α ω), w.Tracked s.rtos.handles s.log other →
        (w.notice next.handles).Tracked next.handles log other) →
      ∀ other (w : Wait ν α ω), (s.waits other).map (·.notice next.handles) = some w →
        w.Tracked next.handles log other := by
    intro log htracked other w hw
    obtain ⟨w', hw', rfl⟩ := Option.map_eq_some_iff.mp hw
    exact htracked other w' (hs.waits other w' hw')
  rcases RtosState.step_handles hs.paired hnext with
    ⟨hhandles, hentries⟩ | ⟨request, v, a, i, hv, ha, hi, hhandles, hentries⟩ |
      ⟨v, a, i, hv, hi, hhandles, hentries⟩
  · rw [hentries]
    refine ⟨hpaired, ?_, hwaits fun other w hw => ?_⟩
    · show Inverse next.handles.var (holder s.log)
      exact hhandles ▸ hs.holders
    · rw [hhandles, hw.notice_eq hs.paired fun i hi _ => hi]
      exact hw
  · rw [hentries]
    refine ⟨hpaired, ?_, hwaits fun other w hw => ?_⟩
    · show Inverse next.handles.var (holder (.made v a :: s.log))
      rw [hhandles, holder_made]
      exact hs.holders.take hv (hs.holder_eq_none.mpr ha)
    · have hsame : w.notice next.handles = w := by
        refine hw.notice_eq hs.paired fun j hj _ => ?_
        rw [hhandles, Handles.made_objects]
        by_cases hji : j = i
        · simp [hji]
        · rw [Function.update_of_ne hji]
          exact hj
      rw [hsame, hhandles]
      exact hw.made hv ha
  · rw [hentries]
    refine ⟨hpaired, ?_, hwaits fun other w hw => ?_⟩
    · show Inverse next.handles.var (holder (.freed a :: s.log))
      rw [hhandles, holder_freed]
      exact hs.holders.release hv
    · rw [hhandles]
      exact hw.gone hs.paired hv hi

omit [DecidableEq ν] [DecidableEq α] [DecidableEq ω] in
/-- A thread is given a handle, or returns at once. -/
theorem enter_cases {v : ν} {kind : OsKind} {timeout : Option ℕ} {countersAvailable : Bool}
    (h : s.enter thread v kind timeout countersAvailable = .ok t) :
    s.waits thread = none ∧
      (s.rtos.handles.var v = none ∧
          t = { s with log := .returned thread v ⟨-1, none⟩ :: s.log } ∨
        ∃ a, s.rtos.handles.var v = some a ∧
          t = { s with
            waits := Function.update s.waits thread
              (some ⟨v, a, kind, timeout, countersAvailable, none, .called⟩)
            log := .called thread v a :: s.log }) := by
  unfold enter at h
  cases hwaits : s.waits thread with
  | some w => simp [hwaits] at h
  | none =>
    refine ⟨rfl, ?_⟩
    cases hvar : s.rtos.handles.var v with
    | none =>
      simp only [hwaits, hvar, Except.ok.injEq] at h
      exact Or.inl ⟨rfl, h.symm⟩
    | some a =>
      simp only [hwaits, hvar, Except.ok.injEq] at h
      exact Or.inr ⟨a, rfl, h.symm⟩

omit [DecidableEq ω] in
theorem Sound.enter {v : ν} {kind : OsKind} {timeout : Option ℕ} {countersAvailable : Bool}
    (hs : s.Sound) (h : s.enter thread v kind timeout countersAvailable = .ok t) : t.Sound := by
  obtain ⟨hwaits, ⟨-, rfl⟩ | ⟨a, hvar, rfl⟩⟩ := enter_cases h
  · have hsame : s.waits = Function.update s.waits thread none := by
      rw [← hwaits, Function.update_eq_self]
    rw [hsame]
    refine hs.goesOn rfl (holder_returned _ _ _ _) (fun other w _ hw => ?_) (by simp)
    exact hw.cons ⟨by simp, by simp⟩ (by simp)
  · refine hs.goesOn rfl (holder_called _ _ _ _) (fun other w hother hw => ?_) ?_
    · exact hw.cons ⟨by simp [Ne.symm hother], by simp⟩ (by simp)
    · rintro w ⟨rfl⟩
      exact ⟨fun _ => hvar, by simp, by simp, by simp⟩

omit [DecidableEq ω] in
/-- A thread that reads a block which is allocated, begins to wait for what it holds. -/
theorem Sound.begins (hs : s.Sound) (hw : s.waits thread = some w) {i : ω}
    (hi : s.rtos.handles.osId w.handle = some i) : (s.begins thread w (some i)).Sound := by
  refine hs.goesOn rfl (holder_entered _ _ _) (fun other w' hother hw' => ?_) ?_
  · exact hw'.cons ⟨by simp, by simp [Ne.symm hother]⟩ (by simp)
  · rintro w' ⟨rfl⟩
    have hown : ∀ hlog : ¬ Overtaken (.entered thread w.handle :: s.log) thread w,
        s.rtos.handles.var w.var = some w.handle := fun hlog =>
      (hs.waits thread w hw).own fun h =>
        hlog ((freedSince_cons_of_ne (by simp) (by simp)).mpr h)
    -- its own entry is the first of the log
    exact ⟨hown, fun _ => ⟨i, hi, rfl⟩, fun _ => not_freedSince_cons_self, by simp⟩

omit [DecidableEq ω] in
theorem Sound.returns (hs : s.Sound) {next : RtosState ν α ω θ σ} {r : RtosResult}
    (hnext : next.handles = s.rtos.handles) :
    (({ s with rtos := next } : RtosWaits ν α ω θ σ).returns thread w r).Sound := by
  refine hs.goesOn hnext (holder_returned _ _ _ _) (fun other w _ hw => ?_) (by simp)
  exact hw.cons ⟨by simp, by simp⟩ (by simp)

omit [DecidableEq ω] in
theorem Sound.goOn (hs : s.Sound) {next : RtosState ν α ω θ σ} {platStatus : OsStatus}
    (hnext : next.handles = s.rtos.handles) (hw : s.waits thread = some w) :
    (({ s with rtos := next } : RtosWaits ν α ω θ σ).goOn thread w platStatus).Sound := by
  unfold RtosWaits.goOn
  split
  · refine hs.goesOn hnext rfl (fun other w _ hw => hw) ?_
    rintro w' ⟨rfl⟩
    -- the variable, the handle and the object are those of before
    exact ⟨(hs.waits thread w hw).own, by simp, by simp, by simp⟩
  · exact hs.returns hnext

omit [DecidableEq ω] in
/-- A thread that waits does so for the object of the variable its block is allocated for. -/
theorem exists_holder_of_waiting (hs : s.Sound) (hw : s.waits thread = some w)
    (hpoint : w.point = .waiting) :
    ∃ v i, holder s.log w.handle = some v ∧ s.rtos.name v = some i ∧ w.osId = some i := by
  obtain ⟨i, hi, hosId⟩ := (hs.waits thread w hw).block hpoint
  obtain ⟨block, hblock, -⟩ := Option.bind_eq_some_iff.mp hi
  obtain ⟨v, hv⟩ := hs.paired.handles.held w.handle block hblock
  exact ⟨v, i, (hs.holders v w.handle).mp hv, view_eq_some.mpr ⟨w.handle, hv, hi⟩, hosId⟩

/-- What the answer to a thread that waits for an object that is alive comes to: the object
of the variable that its block is allocated for does what it is asked for. -/
theorem waiting_refines (hs : s.Sound) (hw : s.waits thread = some w)
    (hpoint : w.point = .waiting) {v : ν} (hholder : holder s.log w.handle = some v)
    {op : OsOp θ} {platStatus : OsStatus} {next : RtosState ν α ω θ σ}
    (h : s.rtos.osPerform rtos w.kind op platStatus w.osId = .ok next) :
    next.handles = s.rtos.handles ∧
      s.rtos.bank.ask rtos w.kind op platStatus v = .ok next.bank := by
  obtain ⟨v', i, hv', hname, hosId⟩ := exists_holder_of_waiting hs hw hpoint
  rw [hholder, Option.some.injEq] at hv'
  subst hv'
  rw [hosId] at h
  exact RtosState.osPerform_refines hs.paired hname h

end RtosWaits

/-! ### A wait is one acquisition -/

/-- What the threads do to the variables: a call, or the acquisition of a wait. -/
inductive BankMove (ν θ : Type) where
  | call (call : BankCall ν θ)
  | acquire (kind : OsKind) (thread : θ) (timeout : Option ℕ) (platStatus : OsStatus) (v : ν)

/-- What a move does. -/
def Bank.move {ν θ σ : Type} [DecidableEq ν] (rtos : Rtos θ σ) (b : Bank ν θ σ) :
    BankMove ν θ → Except Unit (Bank ν θ σ)
  | .call call => b.step rtos call
  | .acquire kind thread timeout platStatus v =>
      b.ask rtos kind (.acquire thread timeout) platStatus v

namespace RtosWaits

variable {ν α ω θ σ : Type} [DecidableEq α]

/-- What a step is to the variables: a wait acquires when it is answered, unless what it
waits for has been deleted, the object of the variable its block is allocated for. -/
def move (s : RtosWaits ν α ω θ σ) : WaitInput ν α ω θ → Option (BankMove ν θ)
  | .call call => some (.call call.seen)
  | .answer thread platStatus =>
      match s.waits thread with
      | none => none
      | some w =>
          if w.point = .waiting then
            (holder s.log w.handle).map (.acquire w.kind thread w.timeout platStatus)
          else none
  | _ => none

variable [DecidableEq ν] [DecidableEq ω] [DecidableEq θ] {rtos : Rtos θ σ}
  {s t : RtosWaits ν α ω θ σ} {thread : θ} {w : Wait ν α ω} {i : WaitInput ν α ω θ}

omit [DecidableEq ν] [DecidableEq α] [DecidableEq ω] in
@[simp] theorem goOn_rtos (platStatus : OsStatus) : (s.goOn thread w platStatus).rtos = s.rtos := by
  unfold goOn
  split <;> rfl

/-- **Every step keeps what is known, and is the move it seems to be.** -/
theorem Sound.step (hs : s.Sound) (h : s.step rtos i = .ok t) :
    t.Sound ∧ (s.move i = none → t.rtos.bank = s.rtos.bank) ∧
      ∀ m, s.move i = some m → s.rtos.bank.move rtos m = .ok t.rtos.bank := by
  have henter : ∀ {thread : θ} {v : ν} {kind : OsKind} {timeout : Option ℕ}
      {countersAvailable : Bool}, s.enter thread v kind timeout countersAvailable = .ok t →
      t.Sound ∧ t.rtos.bank = s.rtos.bank := by
    intro thread v kind timeout countersAvailable h
    refine ⟨hs.enter h, ?_⟩
    obtain ⟨-, ⟨-, rfl⟩ | ⟨a, -, rfl⟩⟩ := enter_cases h <;> rfl
  cases i with
  | call call =>
    refine ⟨hs.call h, by simp [move], ?_⟩
    rintro m ⟨rfl⟩
    obtain ⟨next, hnext, rfl⟩ := bind_pure_eq_ok.mp h
    exact (RtosState.step_refines hs.paired hnext).2
  | mutexWait thread v =>
    obtain ⟨ht, hbank⟩ := henter h
    exact ⟨ht, fun _ => hbank, by simp [move]⟩
  | semaphoreWait thread v millisec countersAvailable =>
    obtain ⟨ht, hbank⟩ := henter h
    exact ⟨ht, fun _ => hbank, by simp [move]⟩
  | acquire thread =>
    simp only [RtosWaits.step] at h
    split at h
    · simp at h
    · next w hw =>
      split at h
      · obtain ⟨block, hderef, rfl⟩ := bind_pure_eq_ok.mp h
        obtain ⟨i, hi, hosId⟩ := hs.exists_osId_of_deref hderef
        rw [hi]
        exact ⟨hs.begins hw hosId, fun _ => rfl, by simp [move]⟩
      · simp at h
  | answer thread platStatus =>
    simp only [RtosWaits.step] at h
    split at h
    · simp at h
    · next w hw =>
      split at h
      · next hpoint =>
        obtain ⟨next, hnext, rfl⟩ := bind_pure_eq_ok.mp h
        obtain ⟨v, i, hholder, -⟩ := exists_holder_of_waiting hs hw hpoint
        obtain ⟨hhandles, hask⟩ := waiting_refines hs hw hpoint hholder hnext
        refine ⟨hs.goOn hhandles hw, by simp [move, hw, hpoint, hholder], ?_⟩
        intro m hm
        simp only [move, hw, hpoint, if_true, hholder, Option.map_some, Option.some.injEq] at hm
        rw [← hm, goOn_rtos]
        exact hask
      · next hpoint =>
        split at h
        · simp at h
        · rw [Except.ok.injEq] at h
          subst h
          exact ⟨hs.goOn rfl hw, fun _ => by rw [goOn_rtos], by simp [move, hw, hpoint]⟩
      · simp at h
  | count thread =>
    simp only [RtosWaits.step] at h
    split at h
    · simp at h
    · next w hw =>
      split at h
      · obtain ⟨block, -, rfl⟩ := bind_pure_eq_ok.mp h
        exact ⟨hs.returns rfl, fun _ => rfl, by simp [move]⟩
      · simp at h

/-! ### What the blocks are read for -/

/-- A thread that reads a block begins to wait for the object of the variable that the block
is allocated for. -/
theorem acquire_spec (hs : s.Sound) {v : ν} (hw : s.waits thread = some w)
    (hpoint : w.point = .called) (hholder : holder s.log w.handle = some v) :
    s.step rtos (.acquire thread) = .ok (s.begins thread w (s.rtos.name v)) := by
  have hvar := (hs.holders v w.handle).mpr hholder
  obtain ⟨block, hblock⟩ := hs.paired.handles.used v w.handle hvar
  obtain ⟨i, hi⟩ := hs.paired.filled w.handle block hblock
  have hname : s.rtos.name v = some i :=
    view_eq_some.mpr ⟨w.handle, hvar, by rw [Handles.osId, hblock, Option.bind_some, hi]⟩
  simp only [RtosWaits.step, hw, hpoint, RtosState.deref, hblock, ok_bind, pure_eq_ok, hi, hname]

/-- The count reported is that of the variable the block has been allocated for last. -/
theorem count_spec (hs : s.Sound) {platStatus : OsStatus} {v : ν} (hw : s.waits thread = some w)
    (hpoint : w.point = .answered platStatus) (hholder : holder s.log w.handle = some v) :
    s.step rtos (.count thread) =
      .ok (s.returns thread w ⟨w.status platStatus, some (s.rtos.bank.count rtos v)⟩) := by
  obtain ⟨i, request, x, hblock, -, hlive, hobject⟩ :=
    RtosState.exists_object hs.paired ((hs.holders v w.handle).mpr hholder)
  have hcount : s.rtos.osSemaphoreGetCount rtos (some i) = s.rtos.bank.count rtos v := by
    simp only [RtosState.osSemaphoreGetCount, Bank.count, Option.bind_some, hlive, hobject]
  simp only [RtosWaits.step, hw, hpoint, RtosState.deref, hblock, ok_bind, pure_eq_ok, hcount]

/-- The steps in which a thread reads its block: at first, and for the count. -/
inductive Reads (thread : θ) (w : Wait ν α ω) : WaitInput ν α ω θ → Prop where
  | acquire (hpoint : w.point = .called) : Reads thread w (.acquire thread)
  | count {platStatus : OsStatus} (hpoint : w.point = .answered platStatus) :
      Reads thread w (.count thread)

/-- A block that has been freed, and not allocated again, is read. -/
theorem reads_freed (hs : s.Sound) (hw : s.waits thread = some w) (hreads : Reads thread w i)
    (hholder : holder s.log w.handle = none) : s.step rtos i = .error .wildHandle := by
  have hblock := hs.holder_eq_none.mp hholder
  cases hreads with
  | acquire hpoint => simp [RtosWaits.step, hw, hpoint, RtosState.deref, hblock]
  | count hpoint => simp [RtosWaits.step, hw, hpoint, RtosState.deref, hblock]

omit [DecidableEq ν] [DecidableEq α] [DecidableEq ω] in
theorem enter_error {v : ν} {kind : OsKind} {timeout : Option ℕ} {countersAvailable : Bool}
    {e : HandleFault} (h : s.enter thread v kind timeout countersAvailable = .error e) :
    e = .refused := by
  unfold enter at h
  split at h
  · simpa [eq_comm] using h
  · simp at h
  · simp at h

/-- A thread is to read its block, which has been freed and not allocated again. -/
def ReadsFreed (s : RtosWaits ν α ω θ σ) (i : WaitInput ν α ω θ) : Prop :=
  ∃ thread w, s.waits thread = some w ∧ Reads thread w i ∧ holder s.log w.handle = none

/-- **A step that does not come back has been refused, or reads a freed block.** -/
theorem step_error (hs : s.Sound) {e : HandleFault} (h : s.step rtos i = .error e) :
    e = .refused ∨ e = .wildHandle ∧ s.ReadsFreed i := by
  cases i with
  | call call =>
    simp only [RtosWaits.step] at h
    cases hcall : s.rtos.step rtos call with
    | error e' =>
      rw [hcall, error_bind, Except.error.injEq] at h
      exact Or.inl (h ▸ RtosState.step_error hs.paired hcall)
    | ok next => simp [hcall] at h
  | mutexWait thread v => exact Or.inl (enter_error h)
  | semaphoreWait thread v millisec countersAvailable => exact Or.inl (enter_error h)
  | acquire thread =>
    cases hw : s.waits thread with
    | none => exact Or.inl (by simpa [RtosWaits.step, hw, eq_comm] using h)
    | some w =>
      cases hpoint : w.point with
      | called =>
        cases hholder : holder s.log w.handle with
        | none =>
          rw [reads_freed hs hw (.acquire hpoint) hholder, Except.error.injEq] at h
          exact Or.inr ⟨h.symm, thread, w, hw, .acquire hpoint, hholder⟩
        | some v => simp [acquire_spec hs hw hpoint hholder] at h
      | _ => exact Or.inl (by simpa [RtosWaits.step, hw, hpoint, eq_comm] using h)
  | answer thread platStatus =>
    left
    cases hw : s.waits thread with
    | none => simpa [RtosWaits.step, hw, eq_comm] using h
    | some w =>
      cases hpoint : w.point with
      | waiting =>
        simp only [RtosWaits.step, hw, hpoint] at h
        cases hnext : s.rtos.osPerform rtos w.kind (.acquire thread w.timeout) platStatus
          w.osId with
        | error e' =>
          rw [hnext, error_bind, Except.error.injEq] at h
          exact h ▸ RtosState.osPerform_error hnext
        | ok next => simp [hnext] at h
      | deleted =>
        simp only [RtosWaits.step, hw, hpoint] at h
        split at h
        · simpa [eq_comm] using h
        · simp at h
      | _ => simpa [RtosWaits.step, hw, hpoint, eq_comm] using h
  | count thread =>
    cases hw : s.waits thread with
    | none => exact Or.inl (by simpa [RtosWaits.step, hw, eq_comm] using h)
    | some w =>
      cases hpoint : w.point with
      | answered platStatus =>
        cases hholder : holder s.log w.handle with
        | none =>
          rw [reads_freed hs hw (.count hpoint) hholder, Except.error.injEq] at h
          exact Or.inr ⟨h.symm, thread, w, hw, .count hpoint, hholder⟩
        | some v => simp [count_spec hs hw hpoint hholder] at h
      | _ => exact Or.inl (by simpa [RtosWaits.step, hw, hpoint, eq_comm] using h)

end RtosWaits

/-- A semaphore is deleted while a thread waits for it: the thread reads a freed block, or,
when the block is used again, the count of another semaphore. -/
example :
    ([[], [.call (.handle (.semaphoreCreate 4 (some false) (some 3) (some 6)))]].map fun others =>
      (run (RtosWaits.step
        ⟨fun request => match request with | .semaphore _ count => count | .mutex _ _ => 1,
          fun _ _ _ _ => none, fun _ count => count⟩)
        { rtos := { object := fun _ => 0 } }
        ([.call (.handle (.semaphoreCreate 0 (some true) (some 3) (some 5))),
          .semaphoreWait () true 100 true, .acquire (),
          .call (.handle (.semaphoreDelete (some true) true))] ++
          others ++ [.answer () (.other (-3)), .count ()])).map
        fun s : RtosWaits Bool ℕ ℕ Unit ℕ => s.log.head?) =
      [.error .wildHandle, .ok (some (.returned () true ⟨-3, some 4⟩))] := by
  decide

end PelionClientLite
