import PelionClientLite.RtosHandles

/-!
# The RTOS objects behind the handles

A handle leads to a control block, and that to an object of the operating system.  The
functions for waiting and releasing follow it, ask the operating system, and make a
status of their own of its answer.  A caller sees nothing of the way: to it each handle
variable is an object, and no other variable has a part in it.

What the operating system does with an object is a parameter, and so is what it answers,
as far as it may answer that.  A call is one step here; what may happen while a thread
waits in one is in `RtosWaits`.  Nothing is created in a variable that holds a handle: the
functions would overwrite it, and the block be lost.  Such calls are refused, here and in
the bank, and nothing below is said of them.

## Main definitions

* `Rtos` — the operating system.
* `RtosState` — the handles, and the state of the objects alive.
* `RtosCall`, `RtosState.step` — the eight functions for mutexes and semaphores.
* `Bank`, `Bank.step` — what they are for: variables that are objects.
* `RtosState.bank` — the variables as a caller sees them.

## Main results

* `RtosState.step_refines` — one call does what it does to the bank.
* `rtosState_refines_bank` — **any calls do and return what they would if each variable
  was an object of its own**, and no block is read that is not allocated.
-/

namespace PelionClientLite

open Machine Ownership

/-- `osStatus_t`, as far as the program tells its values apart. -/
inductive OsStatus where
  | ok
  | errorTimeout
  | errorParameter
  | other (code : ℤ)
  deriving DecidableEq, Repr

/-- What a thread asks of an object; the semaphore functions have no use for the thread. -/
inductive OsOp (θ : Type) where
  /-- `osMutexAcquire` or `osSemaphoreAcquire`; no timeout is `osWaitForever`. -/
  | acquire (thread : θ) (timeout : Option ℕ)
  /-- `osMutexRelease` or `osSemaphoreRelease`. -/
  | release (thread : θ)

/-- The operating system: what it does with objects in states `σ`, for threads `θ`. -/
structure Rtos (θ σ : Type) where
  /-- A new object. -/
  new : OsRequest → σ
  /-- What is left of an object if the system answers so; it may not, or not yet. -/
  perform : OsRequest → OsOp θ → OsStatus → σ → Option σ
  /-- `osSemaphoreGetCount`. -/
  getCount : OsRequest → σ → ℕ

/-- What a call returns: its status, and what it writes to `*countersAvailable`. -/
structure RtosResult where
  status : ℤ
  countersAvailable : Option ℕ := none
  deriving DecidableEq, Repr

/-- A call as its caller sees it; `granted` says whether creating or deleting something
was possible. -/
inductive BankCall (ν θ : Type) where
  | create (request : OsRequest) (handle : Option ν) (granted : Bool)
  | delete (kind : OsKind) (handle : Option ν) (granted : Bool)
  | mutexWait (v : ν) (thread : θ) (platStatus : OsStatus)
  | mutexRelease (v : ν) (thread : θ) (platStatus : OsStatus)
  | semaphoreWait (v : ν) (thread : θ) (millisec : ℕ) (countersAvailable : Bool)
      (platStatus : OsStatus)
  | semaphoreRelease (v : ν) (thread : θ) (platStatus : OsStatus)

/-! ### The functions -/

/-- The handles, the state of each object that is alive, and the calls made with what they
have returned, newest first. -/
structure RtosState (ν α ω θ σ : Type) where
  handles : Handles ν α ω := .initial
  /-- The state of an object. -/
  object : ω → σ
  log : List (BankCall ν θ × RtosResult) := []

namespace RtosState

variable {ν α ω θ σ : Type}

/-- The objects that are alive, with what they are. -/
def live (s : RtosState ν α ω θ σ) (i : ω) : Option (OsRequest × σ) :=
  (s.handles.objects i).map fun o => (o.request, s.object i)

variable [DecidableEq ν] [DecidableEq α] [DecidableEq ω]

/-- The operating system is asked for something, and answers `platStatus`: that there is no
such object, or what it has done with it. -/
def osPerform (rtos : Rtos θ σ) (kind : OsKind) (op : OsOp θ) (platStatus : OsStatus)
    (osId : Option ω) (s : RtosState ν α ω θ σ) :
    Except HandleFault (RtosState ν α ω θ σ) :=
  match osId.bind fun i => (s.live i).map fun x => (i, x) with
  | none => if platStatus = .errorParameter then .ok s else .error .refused
  | some (i, request, x) =>
      if request.kind = kind then
        match rtos.perform request op platStatus x with
        | none => .error .refused
        | some y => .ok { s with object := Function.update s.object i y }
      else if platStatus = .errorParameter then .ok s
      else .error .refused

/-- `osSemaphoreGetCount`, which is zero where there is no such semaphore. -/
def osSemaphoreGetCount (rtos : Rtos θ σ) (osId : Option ω) (s : RtosState ν α ω θ σ) : ℕ :=
  match osId.bind s.live with
  | none => 0
  | some (request, x) => if request.kind = .semaphore then rtos.getCount request x else 0

/-- The block a handle leads to is read. -/
def deref (a : α) (s : RtosState ν α ω θ σ) : Except HandleFault (ControlBlock ω) :=
  match s.handles.blocks a with
  | none => .error .wildHandle
  | some block => .ok block

/-- What `plat_mutex_wait`, `plat_mutex_release` and `plat_semaphore_release` have in
common: what the operating system does not answer with `osOK`, fails. -/
def use (rtos : Rtos θ σ) (kind : OsKind) (op : OsOp θ) (handle : Option α)
    (platStatus : OsStatus) (s : RtosState ν α ω θ σ) :
    Except HandleFault (RtosResult × RtosState ν α ω θ σ) :=
  match handle with
  | none => .ok (⟨-1, none⟩, s)
  | some a => do
      let block ← s.deref a
      let s ← s.osPerform rtos kind op platStatus block.osId
      return (⟨if platStatus = .ok then 0 else -1, none⟩, s)

/-- `plat_mutex_wait`. -/
def platMutexWait (rtos : Rtos θ σ) (mutexID : Option α) (thread : θ) (platStatus : OsStatus) :
    RtosState ν α ω θ σ → Except HandleFault (RtosResult × RtosState ν α ω θ σ) :=
  use rtos .mutex (.acquire thread none) mutexID platStatus

/-- `plat_mutex_release`. -/
def platMutexRelease (rtos : Rtos θ σ) (mutexID : Option α) (thread : θ)
    (platStatus : OsStatus) :
    RtosState ν α ω θ σ → Except HandleFault (RtosResult × RtosState ν α ω θ σ) :=
  use rtos .mutex (.release thread) mutexID platStatus

/-- `plat_semaphore_release`. -/
def platSemaphoreRelease (rtos : Rtos θ σ) (semaphoreID : Option α) (thread : θ)
    (platStatus : OsStatus) :
    RtosState ν α ω θ σ → Except HandleFault (RtosResult × RtosState ν α ω θ σ) :=
  use rtos .semaphore (.release thread) semaphoreID platStatus

/-- `plat_semaphore_wait`.  The count is read back through the handle, also where waiting
has failed. -/
def platSemaphoreWait (rtos : Rtos θ σ) (semaphoreID : Option α) (thread : θ) (millisec : ℕ)
    (countersAvailable : Bool) (platStatus : OsStatus) (s : RtosState ν α ω θ σ) :
    Except HandleFault (RtosResult × RtosState ν α ω θ σ) :=
  match semaphoreID with
  | none => .ok (⟨-1, none⟩, s)
  | some a => do
      let block ← s.deref a
      let s ← s.osPerform rtos .semaphore (.acquire thread (some millisec)) platStatus block.osId
      let status :=
        if platStatus = .errorTimeout then -2
        else if platStatus ≠ .ok then -3
        else 0
      if countersAvailable then
        let block ← s.deref a
        return (⟨status, some (s.osSemaphoreGetCount rtos block.osId)⟩, s)
      else return (⟨status, none⟩, s)

end RtosState

/-- A call of one of the eight functions, with what the libraries answer. -/
inductive RtosCall (ν α ω θ : Type) where
  /-- Something is created or deleted. -/
  | handle (call : HandleCall ν α ω)
  | mutexWait (v : ν) (thread : θ) (platStatus : OsStatus)
  | mutexRelease (v : ν) (thread : θ) (platStatus : OsStatus)
  | semaphoreWait (v : ν) (thread : θ) (millisec : ℕ) (countersAvailable : Bool)
      (platStatus : OsStatus)
  | semaphoreRelease (v : ν) (thread : θ) (platStatus : OsStatus)

/-- The object a call may create, and what is asked for. -/
def HandleCall.newObject {ν α ω : Type} : HandleCall ν α ω → Option (ω × OsRequest)
  | .mutexCreate _ _ id => id.map fun i => (i, .mutex true true)
  | .semaphoreCreate count _ _ id => id.map fun i => (i, .semaphore 1024 count)
  | .mutexDelete _ _ | .semaphoreDelete _ _ => none

/-- What its caller sees of a call that creates or deletes. -/
def HandleCall.seen {ν α ω : Type} (θ : Type) : HandleCall ν α ω → BankCall ν θ
  | .mutexCreate mutexID mem id => .create (.mutex true true) mutexID (mem.isSome && id.isSome)
  | .semaphoreCreate count semaphoreID mem id =>
      .create (.semaphore 1024 count) semaphoreID (mem.isSome && id.isSome)
  | .mutexDelete mutexID granted => .delete .mutex mutexID granted
  | .semaphoreDelete semaphoreID granted => .delete .semaphore semaphoreID granted

/-- What its caller sees of a call. -/
def RtosCall.seen {ν α ω θ : Type} : RtosCall ν α ω θ → BankCall ν θ
  | .handle call => call.seen θ
  | .mutexWait v thread platStatus => .mutexWait v thread platStatus
  | .mutexRelease v thread platStatus => .mutexRelease v thread platStatus
  | .semaphoreWait v thread millisec countersAvailable platStatus =>
      .semaphoreWait v thread millisec countersAvailable platStatus
  | .semaphoreRelease v thread platStatus => .semaphoreRelease v thread platStatus

namespace RtosState

variable {ν α ω θ σ : Type} [DecidableEq ν] [DecidableEq α] [DecidableEq ω]

/-- The operating system has set up the object it has created. -/
def setUp (rtos : Rtos θ σ) (status : ℤ) (created : Option (ω × OsRequest))
    (s : RtosState ν α ω θ σ) : RtosState ν α ω θ σ :=
  match created with
  | none => s
  | some (i, request) =>
      if status = 0 then { s with object := Function.update s.object i (rtos.new request) } else s

omit [DecidableEq ν] [DecidableEq α] in
@[simp] theorem setUp_handles (rtos : Rtos θ σ) (status : ℤ) (created : Option (ω × OsRequest))
    (s : RtosState ν α ω θ σ) : (s.setUp rtos status created).handles = s.handles := by
  unfold setUp
  split
  · rfl
  · split <;> rfl

/-- Something is created or deleted; nothing is created in a variable that holds a handle. -/
def performHandle (rtos : Rtos θ σ) (call : HandleCall ν α ω) (s : RtosState ν α ω θ σ) :
    Except HandleFault (RtosResult × RtosState ν α ω θ σ) :=
  if (call.target.bind s.handles.var).isSome then .error .refused
  else (call.perform s.handles).map fun (status, handles) =>
    (⟨status, none⟩, { s with handles }.setUp rtos status call.newObject)

/-- What is created or deleted, is so by one of the four functions for handles. -/
theorem performHandle_ok {rtos : Rtos θ σ} {s t : RtosState ν α ω θ σ} {call : HandleCall ν α ω}
    {r : RtosResult} (h : s.performHandle rtos call = .ok (r, t)) :
    ∃ status handles, call.target.bind s.handles.var = none ∧
      call.perform s.handles = .ok (status, handles) ∧ r = ⟨status, none⟩ ∧
      t = { s with handles }.setUp rtos status call.newObject := by
  unfold performHandle at h
  split at h
  · simp at h
  · next htarget =>
    rw [Option.not_isSome_iff_eq_none] at htarget
    cases hcall : call.perform s.handles with
    | error e => simp [hcall, Except.map] at h
    | ok next =>
      simp only [hcall, Except.map, Except.ok.injEq, Prod.mk.injEq] at h
      exact ⟨next.1, next.2, htarget, rfl, h.1.symm, h.2.symm⟩

/-- What a call returns, and what it leaves behind.  Waiting and releasing take the value
of the variable. -/
def perform (rtos : Rtos θ σ) (s : RtosState ν α ω θ σ) :
    RtosCall ν α ω θ → Except HandleFault (RtosResult × RtosState ν α ω θ σ)
  | .handle call => s.performHandle rtos call
  | .mutexWait v thread platStatus =>
      s.platMutexWait rtos (s.handles.var v) thread platStatus
  | .mutexRelease v thread platStatus =>
      s.platMutexRelease rtos (s.handles.var v) thread platStatus
  | .semaphoreWait v thread millisec countersAvailable platStatus =>
      s.platSemaphoreWait rtos (s.handles.var v) thread millisec countersAvailable platStatus
  | .semaphoreRelease v thread platStatus =>
      s.platSemaphoreRelease rtos (s.handles.var v) thread platStatus

/-- One call. -/
def step (rtos : Rtos θ σ) (s : RtosState ν α ω θ σ) (call : RtosCall ν α ω θ) :
    Except HandleFault (RtosState ν α ω θ σ) :=
  (s.perform rtos call).map fun (r, s) => { s with log := (call.seen, r) :: s.log }

end RtosState

/-! ### Variables that are objects -/

/-- What the functions are for: each variable is an object of its own, or none. -/
structure Bank (ν θ σ : Type) where
  object : ν → Option (OsRequest × σ) := fun _ => none
  log : List (BankCall ν θ × RtosResult) := []

namespace Bank

variable {ν θ σ : Type} [DecidableEq ν]

/-- An object comes into being. -/
def create (rtos : Rtos θ σ) (request : OsRequest) (granted : Bool) (b : Bank ν θ σ) :
    Option ν → Except Unit (ℤ × Bank ν θ σ)
  | none => .ok (-1, b)
  | some v =>
      if (b.object v).isSome then .error ()
      else if granted then
        .ok (0, { b with object := Function.update b.object v (some (request, rtos.new request)) })
      else .ok (-1, b)

/-- An object goes, if there is one of this kind. -/
def delete (kind : OsKind) (granted : Bool) (b : Bank ν θ σ) : Option ν → ℤ × Bank ν θ σ
  | none => (-1, b)
  | some v =>
      if granted ∧ (b.object v).map (fun x => x.1.kind) = some kind then
        (0, { b with object := Function.update b.object v none })
      else (-1, b)

/-- An object does what it is asked for.  Without an object of this kind nothing is done. -/
def ask (rtos : Rtos θ σ) (kind : OsKind) (op : OsOp θ) (platStatus : OsStatus) (v : ν)
    (b : Bank ν θ σ) : Except Unit (Bank ν θ σ) :=
  match b.object v with
  | none => .ok b
  | some (request, x) =>
      if request.kind = kind then
        match rtos.perform request op platStatus x with
        | none => .error ()
        | some y => .ok { b with object := Function.update b.object v (some (request, y)) }
      else if platStatus = .errorParameter then .ok b
      else .error ()

/-- The count of a semaphore. -/
def count (rtos : Rtos θ σ) (v : ν) (b : Bank ν θ σ) : ℕ :=
  match b.object v with
  | none => 0
  | some (request, x) => if request.kind = .semaphore then rtos.getCount request x else 0

/-- What waiting or releasing returns, by the answer of the object. -/
def status (failed : ℤ) (v : ν) (platStatus : OsStatus) (b : Bank ν θ σ) : ℤ :=
  match b.object v, platStatus with
  | none, _ => -1
  | some _, .ok => 0
  | some _, _ => failed

/-- What waiting for a semaphore returns. -/
def waitStatus (v : ν) (platStatus : OsStatus) (b : Bank ν θ σ) : ℤ :=
  b.status (if platStatus = .errorTimeout then -2 else -3) v platStatus

/-- What a call does and returns. -/
def perform (rtos : Rtos θ σ) (b : Bank ν θ σ) :
    BankCall ν θ → Except Unit (RtosResult × Bank ν θ σ)
  | .create request handle granted =>
      (b.create rtos request granted handle).map fun (status, b) => (⟨status, none⟩, b)
  | .delete kind handle granted =>
      .ok (⟨(b.delete kind granted handle).1, none⟩, (b.delete kind granted handle).2)
  | .mutexWait v thread platStatus =>
      (b.ask rtos .mutex (.acquire thread none) platStatus v).map fun b' =>
        (⟨b.status (-1) v platStatus, none⟩, b')
  | .mutexRelease v thread platStatus =>
      (b.ask rtos .mutex (.release thread) platStatus v).map fun b' =>
        (⟨b.status (-1) v platStatus, none⟩, b')
  | .semaphoreWait v thread millisec countersAvailable platStatus =>
      (b.ask rtos .semaphore (.acquire thread (some millisec)) platStatus v).map fun b' =>
        (⟨b.waitStatus v platStatus,
          if countersAvailable ∧ (b.object v).isSome then some (b'.count rtos v) else none⟩, b')
  | .semaphoreRelease v thread platStatus =>
      (b.ask rtos .semaphore (.release thread) platStatus v).map fun b' =>
        (⟨b.status (-1) v platStatus, none⟩, b')

/-- One call. -/
def step (rtos : Rtos θ σ) (b : Bank ν θ σ) (call : BankCall ν θ) : Except Unit (Bank ν θ σ) :=
  (b.perform rtos call).map fun (r, b) => { b with log := (call, r) :: b.log }

end Bank

/-! ### What creating and deleting come to -/

namespace Handles

variable {ν α ω : Type} [DecidableEq ν] [DecidableEq α] [DecidableEq ω] {s t : Handles ν α ω}
  {status : ℤ}

/-- What is created, or why nothing is. -/
theorem create_spec {request : OsRequest} {handle : Option ν} {mem : Option α} {id : Option ω}
    (h : s.create request handle mem id = .ok (status, t)) :
    (∃ v a i, handle = some v ∧ mem = some a ∧ id = some i ∧ s.blocks a = none ∧
        s.objects i = none ∧ status = 0 ∧ t = s.made request v a i) ∨
      ((handle = none ∨ mem = none ∨ id = none) ∧ status = -1 ∧ t = s) := by
  cases handle with
  | none =>
    simp only [create, Except.ok.injEq, Prod.mk.injEq] at h
    exact Or.inr ⟨Or.inl rfl, h.1.symm, h.2.symm⟩
  | some v =>
    cases mem with
    | none =>
      simp only [create, Except.ok.injEq, Prod.mk.injEq] at h
      exact Or.inr ⟨Or.inr (Or.inl rfl), h.1.symm, h.2.symm⟩
    | some a =>
      cases ha : s.blocks a with
      | some block => simp [create, malloc, ha] at h
      | none =>
        cases id with
        | none =>
          -- the block is freed again, as if it had never been allocated
          have hback : Function.update s.blocks a none = s.blocks := by
            rw [← ha, Function.update_eq_self]
          have hok : s.create request (some v) (some a) none = .ok (-1, s) := by
            simp [create, malloc, osNew, free, ha, hback]
          rw [hok, Except.ok.injEq, Prod.mk.injEq] at h
          exact Or.inr ⟨Or.inr (Or.inr rfl), h.1.symm, h.2.symm⟩
        | some i =>
          cases hi : s.objects i with
          | some o => simp [create, malloc, osNew, ha, hi] at h
          | none =>
            have hok : s.create request (some v) (some a) (some i) =
                .ok (0, s.made request v a i) := by
              simp [create, malloc, osNew, setVar, made, ha, hi]
            rw [hok, Except.ok.injEq, Prod.mk.injEq] at h
            exact Or.inl ⟨v, a, i, rfl, rfl, rfl, ha, hi, h.1.symm, h.2.symm⟩

/-- The object a variable leads to. -/
def objectAt (s : Handles ν α ω) : ν → Option (OsObject α) := view (view s.var s.osId) s.objects

omit [DecidableEq ν] [DecidableEq α] [DecidableEq ω] in
theorem objectAt_eq {v : ν} {a : α} {i : ω} (hv : s.var v = some a) (hi : s.osId a = some i) :
    s.objectAt v = s.objects i := by
  rw [objectAt, view, view, hv, Option.bind_some, hi, Option.bind_some]

/-- What is deleted, or why nothing is. -/
theorem delete_spec {kind : OsKind} {handle : Option ν} {granted : Bool}
    (h : s.delete kind handle granted = .ok (status, t)) :
    (∃ v a i, handle = some v ∧ s.var v = some a ∧ s.osId a = some i ∧
        (granted ∧ (s.objectAt v).map (fun o => o.request.kind) = some kind) ∧ status = 0 ∧
        t = s.gone v a i) ∨
      ((∀ v, handle = some v →
          ¬ (granted ∧ (s.objectAt v).map (fun o => o.request.kind) = some kind)) ∧
        status = -1 ∧ t = s) := by
  cases handle with
  | none =>
    simp only [delete, Option.bind_none, Except.ok.injEq, Prod.mk.injEq] at h
    exact Or.inr ⟨by simp, h.1.symm, h.2.symm⟩
  | some v =>
    simp only [Option.some.injEq, forall_eq']
    cases hv : s.var v with
    | none =>
      simp only [delete, Option.bind_some, hv, Option.map_none, Except.ok.injEq,
        Prod.mk.injEq] at h
      refine Or.inr ⟨?_, h.1.symm, h.2.symm⟩
      simp [objectAt, view, hv]
    | some a =>
      cases hblock : s.blocks a with
      | none => simp [delete, hv, hblock] at h
      | some block =>
        obtain ⟨osId⟩ := block
        have hosId : s.osId a = osId := by rw [Handles.osId, hblock, Option.bind_some]
        cases osId with
        | none =>
          simp only [delete, Option.bind_some, hv, Option.map_some, hblock, osDelete,
            Except.ok.injEq, Prod.mk.injEq] at h
          refine Or.inr ⟨?_, h.1.symm, h.2.symm⟩
          simp [objectAt, view, hv, hosId]
        | some i =>
          have hobject := objectAt_eq hv hosId
          by_cases hos : granted ∧ (s.objects i).map (fun o => o.request.kind) = some kind
          · simp only [delete, Option.bind_some, hv, Option.map_some, hblock, osDelete, if_pos hos,
              free, Option.isSome_some, if_true, ok_bind, pure_eq_ok, Except.ok.injEq,
              Prod.mk.injEq] at h
            exact Or.inl ⟨v, a, i, rfl, hv, hosId, hobject ▸ hos, h.1.symm, h.2.symm⟩
          · simp only [delete, Option.bind_some, hv, Option.map_some, hblock, osDelete, if_neg hos,
              Except.ok.injEq, Prod.mk.injEq] at h
            exact Or.inr ⟨hobject ▸ hos, h.1.symm, h.2.symm⟩

end Handles

namespace Handles

variable {ν α ω : Type} {s : Handles ν α ω}

/-- The variables own the names of the objects. -/
theorem Paired.ids (h : Paired s) : Matched s.var s.osId := by
  refine h.handles.congr fun a => ?_
  cases hblock : s.blocks a with
  | none => rw [osId, hblock, Option.bind_none]; rfl
  | some block =>
    obtain ⟨i, hi⟩ := h.filled a block hblock
    rw [osId, hblock, Option.bind_some, hi, Option.isSome_some, Option.isSome_some]

variable [DecidableEq ν] [DecidableEq α] [DecidableEq ω]

theorem osId_made (request : OsRequest) (v : ν) (a : α) (i : ω) :
    (s.made request v a i).osId = Function.update s.osId a (some i) := by
  funext b
  by_cases hb : b = a
  · simp [osId, hb]
  · simp [osId, hb]

theorem osId_gone (v : ν) (a : α) (i : ω) :
    (s.gone v a i).osId = Function.update s.osId a none := by
  funext b
  by_cases hb : b = a
  · simp [osId, hb]
  · simp [osId, hb]

end Handles

/-! ### The handles as a bank of objects -/

namespace RtosState

variable {ν α ω θ σ : Type} {s t : RtosState ν α ω θ σ}

/-- The object each variable names. -/
def name (s : RtosState ν α ω θ σ) : ν → Option ω := view s.handles.var s.handles.osId

/-- The variables as a caller sees them. -/
def bank (s : RtosState ν α ω θ σ) : Bank ν θ σ where
  object := view s.name s.live
  log := s.log

/-- **The variables own the objects that are alive.** -/
theorem matched_live (hs : s.handles.Paired) : Matched s.name s.live :=
  (hs.ids.trans hs.objects).congr fun _ => Option.isSome_map

variable [DecidableEq ν] [DecidableEq α] [DecidableEq ω] {rtos : Rtos θ σ} {v : ν} {a : α}
  {i : ω}

/-- A variable in which something has been created is a new object. -/
theorem bank_made (request : OsRequest) {x : σ} (hs : s.handles.Paired)
    (ha : s.handles.blocks a = none) (hi : s.handles.objects i = none)
    (ht : t = { s with
      handles := s.handles.made request v a i, object := Function.update s.object i x }) :
    t.bank.object = Function.update s.bank.object v (some (request, x)) := by
  -- block and object are new, so that no other variable names them
  have hname : t.name = Function.update s.name v (some i) := by
    have ha' : s.handles.osId a = none := by rw [Handles.osId, ha, Option.bind_none]
    rw [name, ht, Handles.osId_made]
    exact hs.ids.view_take ha' i
  have hlive : t.live = Function.update s.live i (some (request, x)) := by
    funext j
    by_cases hj : j = i
    · simp [live, ht, hj]
    · simp [live, ht, hj]
  have hi' : s.live i = none := by rw [live, hi, Option.map_none]
  show view t.name t.live = _
  rw [hname, hlive]
  exact (matched_live hs).view_take hi' _

/-- A variable in which something has been deleted is no object any more. -/
theorem bank_gone (hs : s.handles.Paired) (hv : s.handles.var v = some a)
    (hi : s.handles.osId a = some i) (ht : t = { s with handles := s.handles.gone v a i }) :
    t.bank.object = Function.update s.bank.object v none := by
  -- they were this variable's alone
  have hname : t.name = Function.update s.name v none := by
    rw [name, ht, Handles.osId_gone]
    exact hs.ids.view_release hv
  have hlive : t.live = Function.update s.live i none := by
    funext j
    by_cases hj : j = i
    · simp [live, ht, hj]
    · simp [live, ht, hj]
  show view t.name t.live = _
  rw [hname, hlive]
  exact (matched_live hs).view_release (view_eq_some.mpr ⟨a, hv, hi⟩)

omit [DecidableEq α] in
/-- A variable whose object is in another state is another object. -/
theorem bank_set (hs : s.handles.Paired) (hv : s.name v = some i) {request : OsRequest} {x y : σ}
    (hx : s.live i = some (request, x))
    (ht : t = { s with object := Function.update s.object i y }) :
    t.bank.object = Function.update s.bank.object v (some (request, y)) := by
  have hlive : t.live = Function.update s.live i (some (request, y)) := by
    obtain ⟨o, ho, heq⟩ := Option.map_eq_some_iff.mp hx
    rw [Prod.mk.injEq] at heq
    funext j
    by_cases hj : j = i
    · simp [live, ht, hj, ho, heq.1]
    · simp [live, ht, hj]
  have hname : t.name = s.name := by rw [name, ht, name]
  show view t.name t.live = _
  rw [hname, hlive]
  exact (matched_live hs).view_set hv _

omit [DecidableEq ν] [DecidableEq α] [DecidableEq ω] in
/-- A variable is an object where its handle is not zero. -/
theorem bank_eq_none (hs : s.handles.Paired) :
    s.bank.object v = none ↔ s.handles.var v = none :=
  (matched_live hs).view_eq_none.trans hs.ids.view_eq_none

omit [DecidableEq ν] [DecidableEq α] [DecidableEq ω] in
/-- A handle that is not zero leads to the object its variable is. -/
theorem exists_object (hs : s.handles.Paired) (hv : s.handles.var v = some a) :
    ∃ i request x, s.handles.blocks a = some ⟨some i⟩ ∧ s.name v = some i ∧
      s.live i = some (request, x) ∧ s.bank.object v = some (request, x) := by
  obtain ⟨⟨osId⟩, hblock⟩ := hs.handles.used v a hv
  obtain ⟨i, hi⟩ := hs.filled a _ hblock
  rw [show osId = some i from hi] at hblock
  have hosId : s.handles.osId a = some i := by rw [Handles.osId, hblock, Option.bind_some]
  obtain ⟨o, ho⟩ := hs.objects.used a i hosId
  have hname : s.name v = some i := view_eq_some.mpr ⟨a, hv, hosId⟩
  have hlive : s.live i = some (o.request, s.object i) := by rw [live, ho, Option.map_some]
  exact ⟨i, o.request, s.object i, hblock, hname, hlive, view_eq_some.mpr ⟨i, hname, hlive⟩⟩

omit [DecidableEq α] in
/-- **What the operating system does with an object, the variable does.** -/
theorem osPerform_refines (hs : s.handles.Paired) {kind : OsKind} {op : OsOp θ}
    {platStatus : OsStatus} (hname : s.name v = some i)
    (h : s.osPerform rtos kind op platStatus (some i) = .ok t) :
    t.handles = s.handles ∧ s.bank.ask rtos kind op platStatus v = .ok t.bank := by
  obtain ⟨⟨request, x⟩, hlive⟩ := (matched_live hs).used v i hname
  have hobject : s.bank.object v = some (request, x) := view_eq_some.mpr ⟨i, hname, hlive⟩
  simp only [osPerform, Option.bind_some, hlive, Option.map_some] at h
  simp only [Bank.ask, hobject]
  split at h
  · next hkind =>
    rw [if_pos hkind]
    cases hy : rtos.perform request op platStatus x with
    | none => simp [hy] at h
    | some y =>
      simp only [hy, Except.ok.injEq] at h
      have hset := bank_set hs hname hlive h.symm
      subst h
      exact ⟨rfl, congrArg Except.ok (congrArg₂ Bank.mk hset.symm rfl)⟩
  · next hkind =>
    rw [if_neg hkind]
    split at h
    · next hstatus =>
      rw [Except.ok.injEq] at h
      exact ⟨by rw [h], by rw [if_pos hstatus, h]⟩
    · simp at h

omit [DecidableEq α] in
/-- What waiting for a mutex and releasing anything come to. -/
theorem use_refines (hs : s.handles.Paired) {kind : OsKind} {op : OsOp θ} {platStatus : OsStatus}
    {r : RtosResult} (h : s.use rtos kind op (s.handles.var v) platStatus = .ok (r, t)) :
    t.handles = s.handles ∧
      ((s.bank.ask rtos kind op platStatus v).map fun b =>
        (⟨s.bank.status (-1) v platStatus, none⟩, b)) = .ok (r, t.bank) := by
  cases hv : s.handles.var v with
  | none =>
    have hobject := (bank_eq_none hs).mpr hv
    simp only [use, hv, Except.ok.injEq, Prod.mk.injEq] at h
    simp [Bank.ask, Bank.status, hobject, ← h.1, ← h.2, Except.map]
  | some a =>
    obtain ⟨i, request, x, hblock, hname, -, hobject⟩ := exists_object hs hv
    simp only [use, hv, deref, hblock, ok_bind] at h
    obtain ⟨t', ht', h⟩ := bind_pure_eq_ok.mp h
    -- the block names the object, as the variable does
    obtain ⟨hhandles, hask⟩ := osPerform_refines hs hname ht'
    rw [Prod.mk.injEq] at h
    rw [hask, ← h.1, ← h.2]
    refine ⟨hhandles, ?_⟩
    cases platStatus <;> simp [Bank.status, hobject, Except.map]

omit [DecidableEq α] in
/-- What waiting for a semaphore comes to. -/
theorem platSemaphoreWait_refines (hs : s.handles.Paired) {thread : θ} {millisec : ℕ}
    {countersAvailable : Bool} {platStatus : OsStatus} {r : RtosResult}
    (h : s.platSemaphoreWait rtos (s.handles.var v) thread millisec countersAvailable platStatus =
      .ok (r, t)) :
    t.handles = s.handles ∧
      s.bank.perform rtos (.semaphoreWait v thread millisec countersAvailable platStatus) =
        .ok (r, t.bank) := by
  cases hv : s.handles.var v with
  | none =>
    have hobject := (bank_eq_none hs).mpr hv
    simp only [platSemaphoreWait, hv, Except.ok.injEq, Prod.mk.injEq] at h
    simp [Bank.perform, Bank.ask, Bank.waitStatus, Bank.status, hobject, ← h.1, ← h.2, Except.map]
  | some a =>
    obtain ⟨i, request, x, hblock, hname, -, hobject⟩ := exists_object hs hv
    simp only [platSemaphoreWait, hv, deref, hblock, ok_bind] at h
    obtain ⟨t', ht', h⟩ := bind_eq_ok.mp h
    obtain ⟨hhandles, hask⟩ := osPerform_refines hs hname ht'
    have hstatus : (if platStatus = .errorTimeout then (-2 : ℤ)
        else if platStatus ≠ .ok then -3 else 0) = s.bank.waitStatus v platStatus := by
      cases platStatus <;> simp [Bank.waitStatus, Bank.status, hobject]
    -- the block is still there, and the count is that of the object
    have hcount : t'.osSemaphoreGetCount rtos (some i) = t'.bank.count rtos v := by
      have hname' : t'.name v = some i := by rw [name, hhandles]; exact hname
      have hobject' : t'.bank.object v = t'.live i := by
        show view t'.name t'.live v = _
        rw [view, hname', Option.bind_some]
      rw [osSemaphoreGetCount, Bank.count, hobject', Option.bind_some]
    simp only [hstatus, hhandles, hblock, ok_bind, hcount] at h
    simp only [Bank.perform, hask, hobject, Option.isSome_some, and_true]
    cases countersAvailable <;>
      simp only [Bool.false_eq_true, if_true, if_false, pure_eq_ok, Except.ok.injEq,
        Prod.mk.injEq] at h <;>
      exact ⟨h.2 ▸ hhandles, by simp [Except.map, ← h.1, ← h.2]⟩

/-- What creating comes to. -/
theorem create_refines (hs : s.handles.Paired) {request : OsRequest} {handle : Option ν}
    {mem : Option α} {id : Option ω} {status : ℤ} {handles : Handles ν α ω}
    (htarget : handle.bind s.handles.var = none)
    (h : s.handles.create request handle mem id = .ok (status, handles)) :
    s.bank.create rtos request (mem.isSome && id.isSome) handle =
      .ok (status, ({ s with handles }.setUp rtos status (id.map fun i => (i, request))).bank) := by
  rcases Handles.create_spec h with
    ⟨v, a, i, rfl, rfl, rfl, ha, hi, rfl, rfl⟩ | ⟨hnone, rfl, rfl⟩
  · have hobject := (bank_eq_none hs).mpr htarget
    have hmade := bank_made request (v := v) (x := rtos.new request) hs ha hi rfl
    simp only [Bank.create, hobject, Option.isSome_none, Option.isSome_some, Bool.and_self,
      Bool.false_eq_true, if_false, if_true, setUp, Option.map_some]
    rw [← hmade]
    rfl
  -- where nothing is created, no object is set up
  · have hsame : ({ s with handles := s.handles } : RtosState ν α ω θ σ).setUp rtos (-1)
        (id.map fun i => (i, request)) = s := by
      cases id <;> simp [setUp]
    rw [hsame]
    cases handle with
    | none => rfl
    | some v =>
      have hobject := (bank_eq_none hs).mpr htarget
      rcases hnone with hnone | rfl | rfl
      · simp at hnone
      · simp [Bank.create, hobject]
      · simp [Bank.create, hobject]

/-- What deleting comes to. -/
theorem delete_refines (hs : s.handles.Paired) {kind : OsKind} {handle : Option ν}
    {granted : Bool} {status : ℤ} {handles : Handles ν α ω}
    (h : s.handles.delete kind handle granted = .ok (status, handles)) :
    s.bank.delete kind granted handle =
      (status, ({ s with handles } : RtosState ν α ω θ σ).bank) := by
  have hkind : ∀ v, (s.bank.object v).map (fun x => x.1.kind) =
      (s.handles.objectAt v).map fun o => o.request.kind := by
    intro v
    show (view s.name s.live v).map _ = _
    rw [Handles.objectAt, view, view, name]
    cases view s.handles.var s.handles.osId v with
    | none => rfl
    | some i => simp [live]; rfl
  rcases Handles.delete_spec h with ⟨v, a, i, rfl, hv, hi, hcond, rfl, rfl⟩ | ⟨hcond, rfl, rfl⟩
  · have hgone := bank_gone (t := { s with handles := s.handles.gone v a i }) hs hv hi rfl
    rw [Bank.delete, hkind, if_pos hcond, ← hgone]
    rfl
  · cases handle with
    | none => rfl
    | some v => rw [Bank.delete, hkind, if_neg (hcond v rfl)]

/-- What creating or deleting comes to. -/
theorem performHandle_refines (hs : s.handles.Paired) {call : HandleCall ν α ω} {r : RtosResult}
    (h : s.performHandle rtos call = .ok (r, t)) :
    t.handles.Paired ∧ s.bank.perform rtos (call.seen θ) = .ok (r, t.bank) := by
  obtain ⟨status, handles, htarget, hcall, rfl, rfl⟩ := performHandle_ok h
  have hpaired : handles.Paired := by
    rcases Handles.perform_spec hs call htarget with ⟨-, he⟩ | he | ⟨u, he, hu⟩ <;>
      rw [hcall] at he
    · simp at he
    · simp only [Except.ok.injEq, Prod.mk.injEq] at he
      exact he.2 ▸ hs
    · simp only [Except.ok.injEq, Prod.mk.injEq] at he
      exact he.2 ▸ hu
  refine ⟨by rw [setUp_handles]; exact hpaired, ?_⟩
  cases call with
  | mutexCreate mutexID mem id =>
    have hcreate : s.bank.create rtos (.mutex true true) (mem.isSome && id.isSome) mutexID = _ :=
      create_refines hs htarget hcall
    simp only [HandleCall.seen, Bank.perform, hcreate]
    rfl
  | semaphoreCreate count semaphoreID mem id =>
    have hcreate : s.bank.create rtos (.semaphore 1024 count) (mem.isSome && id.isSome)
        semaphoreID = _ := create_refines hs htarget hcall
    simp only [HandleCall.seen, Bank.perform, hcreate]
    rfl
  | mutexDelete mutexID granted =>
    have hdelete := delete_refines hs hcall
    simp only [HandleCall.seen, Bank.perform, hdelete]
    rfl
  | semaphoreDelete semaphoreID granted =>
    have hdelete := delete_refines hs hcall
    simp only [HandleCall.seen, Bank.perform, hdelete]
    rfl

/-- **One call does what it does to the bank, and returns the same.** -/
theorem perform_refines (hs : s.handles.Paired) {call : RtosCall ν α ω θ} {r : RtosResult}
    (h : s.perform rtos call = .ok (r, t)) :
    t.handles.Paired ∧ s.bank.perform rtos call.seen = .ok (r, t.bank) := by
  cases call with
  | handle call => exact performHandle_refines hs h
  | mutexWait v thread platStatus =>
    obtain ⟨hhandles, hbank⟩ := use_refines hs h
    exact ⟨hhandles ▸ hs, hbank⟩
  | mutexRelease v thread platStatus =>
    obtain ⟨hhandles, hbank⟩ := use_refines hs h
    exact ⟨hhandles ▸ hs, hbank⟩
  | semaphoreWait v thread millisec countersAvailable platStatus =>
    obtain ⟨hhandles, hbank⟩ := platSemaphoreWait_refines hs h
    exact ⟨hhandles ▸ hs, hbank⟩
  | semaphoreRelease v thread platStatus =>
    obtain ⟨hhandles, hbank⟩ := use_refines hs h
    exact ⟨hhandles ▸ hs, hbank⟩

theorem step_refines (hs : s.handles.Paired) {call : RtosCall ν α ω θ}
    (h : s.step rtos call = .ok t) :
    t.handles.Paired ∧ s.bank.step rtos call.seen = .ok t.bank := by
  unfold step at h
  cases hperform : s.perform rtos call with
  | error e => simp [hperform, Except.map] at h
  | ok next =>
    obtain ⟨r, u⟩ := next
    simp only [hperform, Except.map, Except.ok.injEq] at h
    obtain ⟨hu, hbank⟩ := perform_refines hs hperform
    rw [← h]
    refine ⟨hu, ?_⟩
    simp only [Bank.step, hbank, Except.map]
    rfl

omit [DecidableEq ν] [DecidableEq α] in
theorem osPerform_error {kind : OsKind} {op : OsOp θ} {platStatus : OsStatus} {osId : Option ω}
    {e : HandleFault} (h : s.osPerform rtos kind op platStatus osId = .error e) :
    e = .refused := by
  unfold osPerform at h
  split at h
  · split at h <;> simp_all
  · split at h
    · split at h <;> simp_all
    · split at h <;> simp_all

/-- A call that does not come back has been refused. -/
theorem perform_error (hs : s.handles.Paired) {call : RtosCall ν α ω θ} {e : HandleFault}
    (h : s.perform rtos call = .error e) : e = .refused := by
  have huse : ∀ kind op v platStatus,
      s.use rtos kind op (s.handles.var v) platStatus = .error e → e = .refused := by
    intro kind op v platStatus h
    cases hv : s.handles.var v with
    | none => simp [use, hv] at h
    | some a =>
      obtain ⟨i, request, x, hblock, -, -, -⟩ := exists_object hs hv
      simp only [use, hv, deref, hblock, ok_bind] at h
      cases hos : s.osPerform rtos kind op platStatus (some i) with
      | error e' =>
        rw [hos, error_bind, Except.error.injEq] at h
        exact h ▸ osPerform_error hos
      | ok t => simp [hos] at h
  -- each of the three reads the block of its handle and asks the object
  cases call with
  | mutexWait v thread platStatus => exact huse _ _ v platStatus h
  | mutexRelease v thread platStatus => exact huse _ _ v platStatus h
  | semaphoreRelease v thread platStatus => exact huse _ _ v platStatus h
  | semaphoreWait v thread millisec countersAvailable platStatus =>
    simp only [perform, platSemaphoreWait] at h
    cases hv : s.handles.var v with
    | none => simp [hv] at h
    | some a =>
      obtain ⟨i, request, x, hblock, hname, -, -⟩ := exists_object hs hv
      simp only [hv, deref, hblock, ok_bind] at h
      cases hos : s.osPerform rtos .semaphore (.acquire thread (some millisec)) platStatus
          (some i) with
      | error e' =>
        rw [hos, error_bind, Except.error.injEq] at h
        exact h ▸ osPerform_error hos
      | ok t =>
        have hhandles := (osPerform_refines hs hname hos).1
        cases countersAvailable <;> simp [hos, hhandles, hblock] at h
  | handle call =>
    simp only [perform, performHandle] at h
    split at h
    · simpa [eq_comm] using h
    · next htarget =>
      rw [Option.not_isSome_iff_eq_none] at htarget
      rcases Handles.perform_spec hs call htarget with ⟨-, hr⟩ | hr | ⟨u, hr, -⟩ <;>
        rw [hr] at h <;> simp only [Except.map, reduceCtorEq, Except.error.injEq] at h
      exact h.symm

theorem step_error (hs : s.handles.Paired) {call : RtosCall ν α ω θ} {e : HandleFault}
    (h : s.step rtos call = .error e) : e = .refused := by
  unfold step at h
  cases hperform : s.perform rtos call with
  | error e' =>
    rw [hperform, Except.map, Except.error.injEq] at h
    exact h ▸ perform_error hs hperform
  | ok next => simp [hperform, Except.map] at h

end RtosState

/-- **The handles are objects.**  Whatever the operating system does with its objects, any
calls of the eight functions, none of which creates something in a variable that holds a
handle, do and return what they would if each handle variable was an object of its own: what
is done through one variable, no other sees.  A call that does not come back has been
refused, and has read no block that is not allocated. -/
theorem rtosState_refines_bank {ν α ω θ σ : Type} [DecidableEq ν] [DecidableEq α]
    [DecidableEq ω] (rtos : Rtos θ σ) (object : ω → σ) (calls : List (RtosCall ν α ω θ)) :
    (Always (RtosState.step rtos) { object } calls fun pre s =>
        run (Bank.step rtos) {} (pre.map RtosCall.seen) = .ok s.bank) ∧
      EachStep (RtosState.step rtos) { object } calls fun _ s call =>
        ∀ e, s.step rtos call = .error e → e = .refused := by
  have hrefines : ∀ (pre : List (RtosCall ν α ω θ)) s,
      run (RtosState.step rtos) { object } pre = .ok s →
      s.handles.Paired ∧ run (Bank.step rtos) {} (pre.map RtosCall.seen) = .ok s.bank := by
    intro pre s h
    exact run_map (I := fun s => s.handles.Paired) RtosState.bank RtosCall.seen
      (fun _ _ _ hs h => RtosState.step_refines hs h) Handles.initial_paired h
  exact ⟨fun pre s _ h => (hrefines pre s h).2,
    fun pre call s _ h e he => RtosState.step_error (hrefines pre s h).1 he⟩

/-- A semaphore is waited for twice, released and deleted, and then waited for once more. -/
example :
    ((run (RtosState.step
      ⟨fun request => match request with | .semaphore _ count => count | .mutex _ _ => 1,
        fun _ op platStatus count => match op, platStatus with
          | .acquire _ _, .ok => if count = 0 then none else some (count - 1)
          | .acquire _ _, .errorTimeout => if count = 0 then some 0 else none
          | .release _, .ok => some (count + 1)
          | _, _ => none,
        fun _ count => count⟩)
      ({ object := fun _ => 0 } : RtosState Unit ℕ ℕ Unit ℕ)
      [.handle (.semaphoreCreate 1 (some ()) (some 3) (some 5)),
        .semaphoreWait () () 100 true .ok, .semaphoreWait () () 100 true .errorTimeout,
        .semaphoreRelease () () .ok, .handle (.semaphoreDelete (some ()) true),
        .semaphoreWait () () 100 true .ok]).map fun s =>
          (s.log.map fun entry => (entry.2.status, entry.2.countersAvailable)).reverse).toOption =
      some [((0 : ℤ), none), (0, some 0), (-2, some 0), (0, none), (0, none), (-1, none)] := by
  decide

end PelionClientLite
