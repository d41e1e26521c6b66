import Mathlib.Algebra.Order.BigOperators.Group.Finset
import PelionClientLite.MemoryStatistics

/-!
# The tracer comes to rest

Between the calls of `mem_trace_cb_sender` the threads only wait for one another: a sender
for room in the queue, `recv_thread` for a block, and for a call of its own that it has
made while it prints.  None of them waits for ever.  However they are scheduled, when no
call is made any more they stop after a bounded number of steps, and then every call that
got a block has been printed.

## Main definitions

* `MemoryStatistics.stage` — how many steps a block is away from the pool.
* `MemoryStatistics.Drained` — nothing is in use and nothing is left to print.
* `MemoryStatistics.Drains` — what is required of a state.

## Main results

* `MemoryStatistics.effort_lt` — every step but a call lowers the sum of the stages.
* `MemoryStatistics.Orderly.progress` — some step is possible, or all is drained.
* `memoryStatistics_drains` — **whatever the schedule, the tracer drains.**
-/

namespace PelionClientLite

open Machine Ownership

/-- The four kinds that are traced. -/
def TraceOp.isTraced : TraceOp → Bool
  | .other _ => false
  | _ => true

namespace TraceInput

variable {Thread : Type}

def isCall : TraceInput Thread → Bool
  | call _ _ _ => true
  | _ => false

/-- A call is of one of the four kinds. -/
def isTraced : TraceInput Thread → Bool
  | call _ c _ => c.op.isTraced
  | _ => true

end TraceInput

theorem fill_isOk {call : TraceCall} (h : call.op.isTraced = true) (d : MemTraceData) :
    ∃ d', d.fill call = .ok d' := by
  obtain ⟨op, res, caller, arg0, arg1⟩ := call
  cases op with
  | other op => simp [TraceOp.isTraced] at h
  | _ => exact ⟨_, rfl⟩

namespace MemoryStatistics

variable {Thread : Type} {s t : MemoryStatistics Thread} {i : TraceInput Thread} {b : Block}

/-! ### How far a block is from the pool -/

/-- A thread has filled the block, and not put it yet. -/
def IsFilled (s : MemoryStatistics Thread) (b : Block) : Prop :=
  ∃ t n call, s.senders t = .filled b n call

open Classical in
/-- How many steps a block is away from the pool. -/
noncomputable def stage (s : MemoryStatistics Thread) (b : Block) : ℕ :=
  if b ∈ s.mpool then 0
  else if s.recvThread = .read b then 1
  else if s.recvThread = .holding b then 2
  else if b ∈ s.msgBox then 3
  else if s.IsFilled b then 4
  else 5

/-- How many steps there are to come. -/
noncomputable def effort (s : MemoryStatistics Thread) : ℕ := ∑ b, s.stage b

theorem stage_le (s : MemoryStatistics Thread) (b : Block) : s.stage b ≤ 5 := by
  unfold stage
  split_ifs <;> omega

theorem effort_le (s : MemoryStatistics Thread) : s.effort ≤ 5 * 64 := by
  have hsum : s.effort ≤ ∑ _ : Block, 5 := Finset.sum_le_sum fun b _ => s.stage_le b
  simpa using hsum

/-- A block that comes closer to the pool, while the others stay where they are, lowers the
effort. -/
theorem effort_lt (hlt : t.stage b < s.stage b) (hsame : ∀ a, a ≠ b → t.stage a = s.stage a) :
    t.effort < s.effort := by
  refine Finset.sum_lt_sum ?_ ⟨b, Finset.mem_univ b, hlt⟩
  intro a _
  by_cases hab : a = b
  · rw [hab]
    exact hlt.le
  · exact (hsame a hab).le

theorem stage_congr {a : Block} (hfree : a ∈ t.mpool ↔ a ∈ s.mpool)
    (hread : t.recvThread = .read a ↔ s.recvThread = .read a)
    (hholding : t.recvThread = .holding a ↔ s.recvThread = .holding a)
    (hqueued : a ∈ t.msgBox ↔ a ∈ s.msgBox) (hfilled : t.IsFilled a ↔ s.IsFilled a) :
    t.stage a = s.stage a := by
  classical simp only [stage, hfree, hread, hholding, hqueued, hfilled]

theorem recvThread_ne (h : s.recvThread.block ≠ some b) :
    s.recvThread ≠ .read b ∧ s.recvThread ≠ .holding b := by
  constructor
  · intro hread
    exact h (by rw [hread, Mailbox.Receiver.block])
  · intro hholding
    exact h (by rw [hholding, Mailbox.Receiver.block])

/-- What is known of a state: the calls are tracked, each block is in one place, and all
the calls that got a block are of the four kinds. -/
structure Orderly (s : MemoryStatistics Thread) : Prop where
  tracked : s.Tracked
  sound : s.mailbox.Sound
  traced : ∀ call ∈ s.accepted, call.op.isTraced = true

theorem orderly_start (memory : Block → MemTraceData) :
    Orderly { memory := memory : MemoryStatistics Thread } :=
  ⟨tracked_start memory, Mailbox.sound_start _, by simp⟩

namespace Orderly

variable {u : TracedThread Thread} {n : ℕ} {call : TraceCall}

/-- Nobody else has the block a thread is at. -/
theorem stage_sending (hs : s.Orderly) (hu : (s.senders u).block = some b) :
    (s.IsFilled b → s.stage b = 4) ∧ (¬ s.IsFilled b → s.stage b = 5) := by
  have honly : ∀ p, s.mailbox.At b p → p = .sending u := fun p hp =>
    hs.sound.place_unique hp (q := .sending u) hu
  have hfree : b ∉ s.mpool := mt (honly .free) (by simp)
  have hqueued : b ∉ s.msgBox := mt (honly .queued) (by simp)
  obtain ⟨hread, hholding⟩ := recvThread_ne (mt (honly .held) (by simp))
  constructor
  · intro hfilled
    simp [stage, hfree, hread, hholding, hqueued, hfilled]
  · intro hfilled
    simp [stage, hfree, hread, hholding, hqueued, hfilled]

theorem stage_filled (hs : s.Orderly) (hu : s.senders u = .filled b n call) : s.stage b = 4 :=
  (hs.stage_sending (u := u) (by rw [hu, SenderPoint.block])).1 ⟨u, n, call, hu⟩

theorem stage_allocated (hs : s.Orderly) (hu : s.senders u = .allocated b n call) :
    s.stage b = 5 := by
  refine (hs.stage_sending (u := u) (by rw [hu, SenderPoint.block])).2 ?_
  -- a thread that has filled the block would be this one
  rintro ⟨v, n', call', hv⟩
  have hplace := hs.sound.place_unique (p := .sending v) (q := .sending u)
    (congrArg SenderPoint.block hv) (congrArg SenderPoint.block hu)
  rw [Mailbox.Place.sending.injEq] at hplace
  rw [hplace, hu] at hv
  simp at hv

theorem stage_queued (hs : s.Orderly) (hb : b ∈ s.msgBox) : s.stage b = 3 := by
  have honly : ∀ p, s.mailbox.At b p → p = .queued := fun p hp =>
    hs.sound.place_unique hp (q := .queued) hb
  have hfree : b ∉ s.mpool := mt (honly .free) (by simp)
  obtain ⟨hread, hholding⟩ := recvThread_ne (mt (honly .held) (by simp))
  simp [stage, hfree, hread, hholding, hb]

/-- A block `recv_thread` has is not free. -/
theorem notMem_mpool (hs : s.Orderly) (hb : s.recvThread.block = some b) : b ∉ s.mpool := by
  intro hfree
  have hplace := hs.sound.place_unique (p := .free) (q := .held) hfree hb
  simp at hplace

theorem stage_holding (hs : s.Orderly) (hb : s.recvThread = .holding b) : s.stage b = 2 := by
  have hfree : b ∉ s.mpool := hs.notMem_mpool (by rw [hb, Mailbox.Receiver.block])
  simp [stage, hfree, hb]

theorem stage_read (hs : s.Orderly) (hb : s.recvThread = .read b) : s.stage b = 1 := by
  have hfree : b ∉ s.mpool := hs.notMem_mpool (by rw [hb, Mailbox.Receiver.block])
  simp [stage, hfree, hb]

end Orderly

theorem stage_free (hb : b ∈ s.mpool) : s.stage b = 0 := if_pos hb

/-! ### Every step but a call lowers the effort -/

section Steps

variable [DecidableEq Thread]

/-- A thread that goes from one point to another fills no block but the one it is at. -/
theorem isFilled_update {a : Block} {u : TracedThread Thread} {p : SenderPoint}
    (hs : ∀ n call, s.senders u ≠ .filled a n call) (hp : ∀ n call, p ≠ .filled a n call)
    (ht : t.senders = Function.update s.senders u p) : t.IsFilled a ↔ s.IsFilled a := by
  constructor
  · rintro ⟨v, n, call, hv⟩
    rw [ht] at hv
    by_cases hvu : v = u
    · rw [hvu, Function.update_self] at hv
      exact absurd hv (hp n call)
    · rw [Function.update_of_ne hvu] at hv
      exact ⟨v, n, call, hv⟩
  · rintro ⟨v, n, call, hv⟩
    have hvu : v ≠ u := by
      rintro rfl
      exact hs n call hv
    exact ⟨v, n, call, by rw [ht, Function.update_of_ne hvu, hv]⟩

theorem Orderly.steps (hs : s.Orderly) (hi : i.isTraced = true) (h : s.Steps i t) : t.Orderly := by
  refine ⟨hs.tracked.step hs.sound h, ?_, ?_⟩
  · rcases mailbox_step hs.tracked h with heq | hstep
    · rw [heq]
      exact hs.sound
    · exact hs.sound.step hstep
  · cases h with
    | accepts =>
      rw [List.forall_mem_append]
      exact ⟨hs.traced, by simpa [TraceInput.isTraced] using hi⟩
    | _ => exact hs.traced

/-- **Every step but a call lowers the effort.** -/
theorem Orderly.effort_lt (hs : s.Orderly) (hcall : i.isCall = false) (h : s.Steps i t) :
    t.Orderly ∧ t.effort < s.effort := by
  have htraced : i.isTraced = true := by
    cases i with
    | call => simp [TraceInput.isCall] at hcall
    | _ => rfl
  have ht := hs.steps htraced h
  refine ⟨ht, ?_⟩
  cases h with
  | drops => simp [TraceInput.isCall] at hcall
  | accepts => simp [TraceInput.isCall] at hcall
  | @fills u b n call d hu hd =>
    apply MemoryStatistics.effort_lt (b := b)
    · have hfilled := Function.update_self u (SenderPoint.filled b n call) s.senders
      rw [hs.stage_allocated hu, ht.stage_filled hfilled]
      omega
    · intro a hab
      refine stage_congr Iff.rfl Iff.rfl Iff.rfl Iff.rfl (isFilled_update ?_ ?_ rfl)
      · simp [hu]
      · simp [Ne.symm hab]
  | @puts u b n call hu =>
    apply MemoryStatistics.effort_lt (b := b)
    · rw [hs.stage_filled hu, ht.stage_queued (by simp)]
      omega
    · intro a hab
      refine stage_congr Iff.rfl Iff.rfl Iff.rfl (by simp [hab]) (isFilled_update ?_ ?_ rfl)
      · simp [hu, Ne.symm hab]
      · simp
  | @gets b rest hwaiting hqueue =>
    apply MemoryStatistics.effort_lt (b := b)
    · rw [hs.stage_queued (by simp [hqueue]), ht.stage_holding rfl]
      omega
    · intro a hab
      exact stage_congr Iff.rfl (by simp [hwaiting]) (by simp [hwaiting, Ne.symm hab])
        (by simp [hqueue, hab]) Iff.rfl
  | @prints b hholding =>
    apply MemoryStatistics.effort_lt (b := b)
    · rw [hs.stage_holding hholding, ht.stage_read rfl]
      omega
    · intro a hab
      exact stage_congr Iff.rfl (by simp [hholding, Ne.symm hab])
        (by simp [hholding, Ne.symm hab]) Iff.rfl Iff.rfl
  | @frees b hread =>
    apply MemoryStatistics.effort_lt (b := b)
    · rw [hs.stage_read hread, stage_free (by simp)]
      omega
    · intro a hab
      exact stage_congr (by simp [hab]) (by simp [hread, Ne.symm hab]) (by simp [hread]) Iff.rfl
        Iff.rfl

/-! ### Some step is possible, or all is drained -/

/-- Nothing is in use, and each call that got a block has been printed once. -/
structure Drained (s : MemoryStatistics Thread) : Prop where
  mpool : s.mpool = Finset.univ
  msgBox : s.msgBox = []
  senders : ∀ t, s.senders t = .idle
  recvThread : s.recvThread = .waiting
  printed : s.lines = s.puts.map fun p => p.2.line
  once : s.lines.Perm (s.accepted.map TraceCall.line)

omit [DecidableEq Thread] in
/-- Where no thread is at a call, the calls put are the calls that got a block. -/
theorem Orderly.puts_perm (hs : s.Orderly) (hidle : ∀ t, s.senders t = .idle) :
    (s.puts.map fun p => p.2.line).Perm (s.accepted.map TraceCall.line) := by
  have hnodup : s.accepted.zipIdx.Nodup := by
    apply List.Nodup.of_map Prod.snd
    rw [List.zipIdx_map_snd]
    exact List.nodup_range'
  have hswap : (s.puts.map Prod.swap).Nodup := hs.tracked.once.map Prod.swap_injective
  -- with their numbers, these are the same calls, and none of them twice
  have hperm : (s.puts.map Prod.swap).Perm s.accepted.zipIdx := by
    refine (List.perm_ext_iff_of_nodup hswap hnodup).mpr ?_
    rintro ⟨call, n⟩
    rw [List.mem_zipIdx_iff_getElem?, List.mem_map]
    constructor
    · rintro ⟨p, hp, heq⟩
      have hacc := hs.tracked.own p hp
      rwa [Prod.ext_iff.mp heq |>.1.symm, Prod.ext_iff.mp heq |>.2.symm]
    · intro hacc
      refine ⟨(n, call), ?_, rfl⟩
      by_contra hput
      obtain ⟨t, ht⟩ := hs.tracked.matched.held (n, call) ()
        (pendingCall_eq_some.mpr ⟨hacc, hput⟩)
      simp [hidle t, SenderPoint.entry] at ht
  have hlines := (hperm.map Prod.fst).map TraceCall.line
  rw [List.zipIdx_map_fst, List.map_map, List.map_map] at hlines
  exact hlines

omit [DecidableEq Thread] in
/-- A state in which no thread waits for another is drained. -/
theorem Orderly.drained (hs : s.Orderly) (hidle : ∀ t, s.senders t = .idle)
    (hwaiting : s.recvThread = .waiting) (hempty : s.msgBox = []) : s.Drained := by
  have hprinted : s.lines = s.puts.map fun p => p.2.line := by
    -- nothing is queued and nothing held, so all that was put has been printed
    have hfifo := hs.sound.fifo
    simp only [mailbox, hwaiting, hempty, Mailbox.Receiver.unread, List.append_nil,
      List.map_nil] at hfifo
    exact hfifo.symm
  refine ⟨?_, hempty, hidle, hwaiting, hprinted, hprinted ▸ hs.puts_perm hidle⟩
  -- each block is somewhere, and only the pool is left
  refine Finset.eq_univ_of_forall fun b => ?_
  obtain ⟨p, hp, -⟩ := hs.sound.existsUnique_place b
  cases p with
  | free => exact hp
  | sending t => simp [Mailbox.At, mailbox, hidle, SenderPoint.block] at hp
  | queued => simp [Mailbox.At, mailbox, hempty] at hp
  | held => simp [Mailbox.At, mailbox, hwaiting, Mailbox.Receiver.block] at hp

/-- **Some step is possible, or all is drained.** -/
theorem Orderly.progress (hs : s.Orderly) :
    s.Drained ∨ ∃ i t, i.isCall = false ∧ s.step i = .ok t := by
  by_cases hidle : ∀ t, s.senders t = .idle
  · -- `recv_thread` is not kept by a call of its own
    cases hrecv : s.recvThread with
    | waiting =>
      cases hqueue : s.msgBox with
      | nil => exact Or.inl (hs.drained hidle hrecv hqueue)
      | cons b rest =>
        refine Or.inr ⟨.get, { s with msgBox := rest, recvThread := .holding b }, rfl, ?_⟩
        simp only [step, hrecv, hqueue]
    | holding b =>
      refine Or.inr ⟨.print, { s with
        lines := s.lines ++ [memTraceCbReceiver (s.memory b)], recvThread := .read b }, rfl, ?_⟩
      simp only [step, hrecv, hidle, SenderPoint.isIdle, if_true]
    | read b =>
      refine Or.inr
        ⟨.free, { s with mpool := insert b s.mpool, recvThread := .waiting }, rfl, ?_⟩
      simp only [step, hrecv, hidle, SenderPoint.isIdle, if_true]
  · obtain ⟨u, hu⟩ := not_forall.mp hidle
    cases hpoint : s.senders u with
    | idle => exact absurd hpoint hu
    | allocated b n call =>
      -- the call is one of the four kinds, so no assertion fails
      obtain ⟨x, hx⟩ := hs.tracked.matched.used u (n, call) (congrArg SenderPoint.entry hpoint)
      have hacc := (pendingCall_eq_some.mp hx).1
      obtain ⟨d, hd⟩ := fill_isOk (hs.traced call (List.mem_of_getElem? hacc)) (s.memory b)
      refine Or.inr ⟨.fill u, { s with
        memory := Function.update s.memory b d
        senders := Function.update s.senders u (.filled b n call) }, rfl, ?_⟩
      simp only [step, hpoint, hd, ok_bind, pure_eq_ok]
    | filled b n call =>
      -- this block is not in the queue, so there is room for it
      have hroom : s.msgBox.length < 64 := by
        have hlt := hs.sound.length_lt (congrArg SenderPoint.block hpoint)
        rwa [Fintype.card_fin] at hlt
      refine Or.inr ⟨.put u, { s with
        msgBox := s.msgBox ++ [b], puts := s.puts ++ [(n, call)]
        senders := Function.update s.senders u .idle }, rfl, ?_⟩
      simp only [step, hpoint, hroom, if_true]

/-- What is required of a state: when no call is made any more, there are no more than
five steps for each block; they may stop only when all is drained; and they can go on to
that. -/
structure Drains (s : MemoryStatistics Thread) : Prop where
  bounded : ∀ js t, (∀ j ∈ js, TraceInput.isCall j = false) → run step s js = .ok t →
    js.length ≤ 5 * 64
  progress : ∀ js t, (∀ j ∈ js, TraceInput.isCall j = false) → run step s js = .ok t →
    t.Drained ∨ ∃ j t', TraceInput.isCall j = false ∧ t.step j = .ok t'
  drains : ∃ js t, (∀ j ∈ js, TraceInput.isCall j = false) ∧ run step s js = .ok t ∧ t.Drained

theorem Orderly.drains (hs : s.Orderly) : s.Drains := by
  have hlt : ∀ (s : MemoryStatistics Thread) j t, s.Orderly → j.isCall = false →
      s.step j = .ok t → t.Orderly ∧ t.effort < s.effort :=
    fun s j t hs hj ht => hs.effort_lt hj (steps_of_step ht)
  refine ⟨?_, ?_, ?_⟩
  · intro js t hjs ht
    have hle := run_length_add_le hlt hs hjs ht
    have hmax := s.effort_le
    omega
  · intro js t hjs ht
    have hkeep : Always step s js fun _ t => t.Orderly :=
      EachStep.keeps (C := fun _ _ j => j.isCall = false) hs
        (fun _ u j t _ hu hj ht => (hlt u j t hu hj ht).1)
        (fun pre j _ hpre _ => hjs j (hpre.subset (by simp)))
    exact (hkeep js t List.prefix_rfl ht).progress
  · refine exists_run_of_progress (I := Orderly) (μ := effort) ?_ hs
    intro s hs
    rcases hs.progress with hdone | ⟨j, t, hj, ht⟩
    · exact Or.inl hdone
    · exact Or.inr ⟨j, t, hj, ht, hlt s j t hs hj ht⟩

end Steps

end MemoryStatistics

/-- **Whatever the schedule, the tracer drains.**  In every state reached by calls of the
four kinds, the threads can finish without another call; they do so in any order, in no
more than five steps for each block. -/
theorem memoryStatistics_drains {Thread : Type} [DecidableEq Thread]
    (memory : Block → MemTraceData) (is : List (TraceInput Thread))
    (htraced : ∀ i ∈ is, i.isTraced = true) :
    Always MemoryStatistics.step { memory } is fun _ s => s.Drains := by
  have hord : Always MemoryStatistics.step { memory } is fun _ s => s.Orderly := by
    refine EachStep.keeps (C := fun _ _ i => i.isTraced = true)
      (MemoryStatistics.orderly_start memory) ?_ ?_
    · intro _ u i t _ hu hi ht
      exact hu.steps hi (MemoryStatistics.steps_of_step ht)
    · intro pre i u hpre _
      exact htraced i (hpre.subset (by simp))
  intro pre s hpre hs
  exact (hord pre s hpre hs).drains

/-- It drains also when `recv_thread` has just allocated while it prints. -/
theorem memoryStatistics_drains_reentrant :
    Always MemoryStatistics.step
      ({ memory := fun _ => ⟨.free, 0, 0, ⟨0, 0⟩⟩ } : MemoryStatistics Unit)
      [.call (.other ()) ⟨.malloc, 16, 32, 8, 0⟩ 0, .fill (.other ()), .put (.other ()), .get,
        .call .recvThread ⟨.free, 0, 64, 16, 0⟩ 1] fun _ s => s.Drains :=
  memoryStatistics_drains _ _ (by decide)

end PelionClientLite
