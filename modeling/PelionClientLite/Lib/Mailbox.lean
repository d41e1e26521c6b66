import Mathlib.Data.Fintype.Card

/-!
# A pool of blocks and a queue

Many senders pass messages to one receiver in blocks of memory.  A sender takes a free
block from the pool, writes to it, and puts it into a bounded queue; the receiver gets
the blocks from the queue in turn, reads each, and gives it back to the pool.

A block is always in one place.  The queue therefore has room for every sender that
comes with a block, if it is as long as there are blocks, and what is received is what
was sent, in order.

## Main definitions

* `Mailbox` — the pool, the memory, the queue, and what the threads hold.
* `Mailbox.Place`, `Mailbox.At` — where a block is.
* `Mailbox.Step` — what may be done.
* `Mailbox.Sound` — what is known between the steps.

## Main results

* `Mailbox.Sound.step` — every step keeps it.
* `Mailbox.Sound.existsUnique_place` — **each block is in exactly one place.**
* `Mailbox.Sound.length_lt` — **a sender with a block finds room in the queue.**
* `Mailbox.Sound.received_prefix` — **what is received is what was sent, in order.**
-/

namespace Mailbox

/-- What the receiver does. -/
inductive Receiver (B : Type*) where
  /-- It waits for a block. -/
  | waiting
  /-- It has got a block, and not read it yet. -/
  | holding (b : B)
  /-- It has read the block. -/
  | read (b : B)

namespace Receiver

variable {B : Type*}

/-- The block the receiver holds. -/
def block : Receiver B → Option B
  | waiting => none
  | holding b => some b
  | read b => some b

/-- The block the receiver has still to read. -/
def unread : Receiver B → List B
  | holding b => [b]
  | _ => []

end Receiver

/-- Where a block may be. -/
inductive Place (T : Type*) where
  /-- In the pool. -/
  | free
  /-- In the hands of a sender. -/
  | sending (t : T)
  /-- In the queue. -/
  | queued
  /-- In the hands of the receiver. -/
  | held

end Mailbox

/-- Blocks of memory between senders and a receiver. -/
structure Mailbox (B T M : Type*) where
  /-- The blocks in the pool. -/
  free : Finset B
  /-- What is written in the blocks. -/
  memory : B → M
  /-- The queue, first out first. -/
  queue : List B
  /-- The block a sender holds. -/
  sending : T → Option B
  receiver : Mailbox.Receiver B
  /-- What has been put into the queue, oldest first. -/
  sent : List M
  /-- What has been read by the receiver, oldest first. -/
  received : List M

namespace Mailbox

variable {B T M : Type*} {m m' : Mailbox B T M} {b : B} {t : T}

/-- Where a block is. -/
def At (m : Mailbox B T M) (b : B) : Place T → Prop
  | .free => b ∈ m.free
  | .sending t => m.sending t = some b
  | .queued => b ∈ m.queue
  | .held => m.receiver.block = some b

/-- What is known between the steps: where each block is, and only there; no block is
queued twice; and what is still to be read follows what has been read. -/
structure Sound (m : Mailbox B T M) : Prop where
  placed : ∃ place : B → Place T, ∀ b p, m.At b p ↔ place b = p
  nodup : m.queue.Nodup
  fifo : m.sent = m.received ++ (m.receiver.unread ++ m.queue).map m.memory

/-- To begin with all blocks are in the pool. -/
def start [Fintype B] (memory : B → M) : Mailbox B T M where
  free := Finset.univ
  memory := memory
  queue := []
  sending := fun _ => none
  receiver := .waiting
  sent := []
  received := []

theorem sound_start [Fintype B] (memory : B → M) : (start memory : Mailbox B T M).Sound where
  placed := by
    refine ⟨fun _ => .free, fun b p => ?_⟩
    cases p <;> simp [At, start, Receiver.block]
  nodup := List.nodup_nil
  fifo := rfl

namespace Sound

/-- Each block is in exactly one place. -/
theorem existsUnique_place (h : m.Sound) (b : B) : ∃! p, m.At b p := by
  obtain ⟨place, hplace⟩ := h.placed
  refine ⟨place b, (hplace b _).mpr rfl, ?_⟩
  intro p hp
  exact ((hplace b p).mp hp).symm

/-- No block is in two places. -/
theorem place_unique (h : m.Sound) {p q : Place T} (hp : m.At b p) (hq : m.At b q) : p = q :=
  (h.existsUnique_place b).unique hp hq

theorem notMem_queue (h : m.Sound) (hb : m.sending t = some b) : b ∉ m.queue := by
  intro hqueued
  have hplace := h.place_unique (p := .sending t) (q := .queued) hb hqueued
  simp at hplace

theorem notMem_unread (h : m.Sound) (hb : m.sending t = some b) : b ∉ m.receiver.unread := by
  intro hunread
  have hheld : m.receiver.block = some b := by
    cases hreceiver : m.receiver with
    | holding a =>
      rw [hreceiver] at hunread
      simpa [Receiver.unread, Receiver.block, eq_comm] using hunread
    | waiting => simp [hreceiver, Receiver.unread] at hunread
    | read a => simp [hreceiver, Receiver.unread] at hunread
  have hplace := h.place_unique (p := .sending t) (q := .held) hb hheld
  simp at hplace

/-- A sender that holds a block finds fewer than all blocks in the queue. -/
theorem length_lt [Fintype B] (h : m.Sound) (hb : m.sending t = some b) :
    m.queue.length < Fintype.card B := by
  have hmem := h.notMem_queue hb
  have hnodup : (b :: m.queue).Nodup := List.nodup_cons.mpr ⟨hmem, h.nodup⟩
  exact Nat.lt_of_succ_le hnodup.length_le_card

/-- What is received is what was sent, in order. -/
theorem received_prefix (h : m.Sound) : m.received <+: m.sent := by
  rw [h.fifo]
  exact List.prefix_append _ _

end Sound

/-! ### The steps -/

variable [DecidableEq B]

/-- A sender takes a block from the pool. -/
def alloc [DecidableEq T] (t : T) (b : B) (m : Mailbox B T M) : Mailbox B T M :=
  { m with free := m.free.erase b, sending := Function.update m.sending t (some b) }

/-- A block is written. -/
def write (b : B) (x : M) (m : Mailbox B T M) : Mailbox B T M :=
  { m with memory := Function.update m.memory b x }

/-- A sender puts its block into the queue. -/
def put [DecidableEq T] (t : T) (b : B) (m : Mailbox B T M) : Mailbox B T M :=
  { m with queue := m.queue ++ [b], sending := Function.update m.sending t none,
           sent := m.sent ++ [m.memory b] }

/-- The receiver gets a block, and leaves the rest of the queue. -/
def get (b : B) (rest : List B) (m : Mailbox B T M) : Mailbox B T M :=
  { m with queue := rest, receiver := .holding b }

/-- The receiver reads its block. -/
def read (b : B) (m : Mailbox B T M) : Mailbox B T M :=
  { m with receiver := .read b, received := m.received ++ [m.memory b] }

/-- The receiver gives its block back to the pool. -/
def release (b : B) (m : Mailbox B T M) : Mailbox B T M :=
  { m with free := insert b m.free, receiver := .waiting }

/-- What may be done: a block is taken from the pool by a sender that has none; it is
written by the sender that holds it, and put; and the receiver gets, reads and releases
one block at a time. -/
inductive Step [DecidableEq T] (m : Mailbox B T M) : Mailbox B T M → Prop where
  | alloc {t : T} {b : B} (hfree : b ∈ m.free) (hnone : m.sending t = none) : Step m (m.alloc t b)
  | write {t : T} {b : B} (x : M) (hb : m.sending t = some b) : Step m (m.write b x)
  | put {t : T} {b : B} (hb : m.sending t = some b) : Step m (m.put t b)
  | get {b : B} {rest : List B} (hwaiting : m.receiver = .waiting) (hqueue : m.queue = b :: rest) :
      Step m (m.get b rest)
  | read {b : B} (hholding : m.receiver = .holding b) : Step m (m.read b)
  | release {b : B} (hread : m.receiver = .read b) : Step m (m.release b)

/-! ### What the steps keep -/

/-- From `m` to `m'`, block `b` goes to the place `q`, and every other block stays. -/
def Moves (m m' : Mailbox B T M) (b : B) (q : Place T) : Prop :=
  ∀ a p, m'.At a p ↔ if a = b then p = q else m.At a p

theorem Moves.placed {q : Place T} (h : m.Moves m' b q)
    (hm : ∃ place : B → Place T, ∀ a p, m.At a p ↔ place a = p) :
    ∃ place : B → Place T, ∀ a p, m'.At a p ↔ place a = p := by
  obtain ⟨place, hplace⟩ := hm
  refine ⟨Function.update place b q, fun a p => ?_⟩
  rw [h a p]
  by_cases hab : a = b
  · subst hab
    rw [if_pos rfl, Function.update_self]
    exact eq_comm
  · rw [if_neg hab, Function.update_of_ne hab]
    exact hplace a p

/-- A block that is written meanwhile is not among those to be read. -/
theorem map_memory_update {l : List B} (x : M) (hb : b ∉ l) :
    l.map (Function.update m.memory b x) = l.map m.memory := by
  refine List.map_congr_left fun a ha => ?_
  have hab : a ≠ b := by
    intro hab
    exact hb (hab ▸ ha)
  exact Function.update_of_ne hab _ _

namespace Sound

theorem moves_alloc [DecidableEq T] (h : m.Sound) (hfree : b ∈ m.free)
    (hnone : m.sending t = none) : m.Moves (m.alloc t b) b (.sending t) := by
  have honly : ∀ p, m.At b p → p = .free := fun p hp => h.place_unique hp (q := .free) hfree
  intro a p
  by_cases hab : a = b
  · subst hab
    rw [if_pos rfl]
    cases p with
    | free => simp [At, alloc]
    | sending u =>
      by_cases hu : u = t
      · simp [At, alloc, hu]
      · have hnot := mt (honly (.sending u)) (by simp)
        simpa [At, alloc, hu] using hnot
    | queued => simpa [At, alloc] using mt (honly .queued) (by simp)
    | held => simpa [At, alloc] using mt (honly .held) (by simp)
  · rw [if_neg hab]
    cases p with
    | free => simp [At, alloc, hab]
    | sending u =>
      by_cases hu : u = t
      · simp [At, alloc, hu, hnone, Ne.symm hab]
      · simp [At, alloc, hu]
    | queued => rfl
    | held => rfl

theorem moves_put [DecidableEq T] (h : m.Sound) (hb : m.sending t = some b) :
    m.Moves (m.put t b) b .queued := by
  have honly : ∀ p, m.At b p → p = .sending t := fun p hp =>
    h.place_unique hp (q := .sending t) hb
  intro a p
  by_cases hab : a = b
  · subst hab
    rw [if_pos rfl]
    cases p with
    | free => simpa [At, put] using mt (honly .free) (by simp)
    | sending u =>
      by_cases hu : u = t
      · simp [At, put, hu]
      · have hnot := mt (honly (.sending u)) (by simp [hu])
        simpa [At, put, hu] using hnot
    | queued => simp [At, put]
    | held => simpa [At, put] using mt (honly .held) (by simp)
  · rw [if_neg hab]
    cases p with
    | free => rfl
    | sending u =>
      by_cases hu : u = t
      · simp [At, put, hu, hb, Ne.symm hab]
      · simp [At, put, hu]
    | queued => simp [At, put, hab]
    | held => rfl

theorem moves_get (h : m.Sound) {rest : List B} (hwaiting : m.receiver = .waiting)
    (hqueue : m.queue = b :: rest) : m.Moves (m.get b rest) b .held := by
  have hmem : m.At b .queued := by simp [At, hqueue]
  have honly : ∀ p, m.At b p → p = .queued := fun p hp => h.place_unique hp hmem
  have hnodup := h.nodup
  rw [hqueue, List.nodup_cons] at hnodup
  intro a p
  by_cases hab : a = b
  · subst hab
    rw [if_pos rfl]
    cases p with
    | free => simpa [At, get] using mt (honly .free) (by simp)
    | sending u => simpa [At, get] using mt (honly (.sending u)) (by simp)
    | queued => simpa [At, get] using hnodup.1
    | held => simp [At, get, Receiver.block]
  · rw [if_neg hab]
    cases p with
    | free => rfl
    | sending u => rfl
    | queued => simp [At, get, hqueue, hab]
    | held => simp [At, get, hwaiting, Receiver.block, Ne.symm hab]

theorem moves_release (h : m.Sound) (hread : m.receiver = .read b) :
    m.Moves (m.release b) b .free := by
  have hheld : m.At b .held := by simp [At, hread, Receiver.block]
  have honly : ∀ p, m.At b p → p = .held := fun p hp => h.place_unique hp hheld
  intro a p
  by_cases hab : a = b
  · subst hab
    rw [if_pos rfl]
    cases p with
    | free => simp [At, release]
    | sending u => simpa [At, release] using mt (honly (.sending u)) (by simp)
    | queued => simpa [At, release] using mt (honly .queued) (by simp)
    | held => simp [At, release, Receiver.block]
  · rw [if_neg hab]
    cases p with
    | free => simp [At, release, hab]
    | sending u => rfl
    | queued => rfl
    | held => simp [At, release, hread, Receiver.block, Ne.symm hab]

/-- **Every step keeps what is known between the steps.** -/
theorem step [DecidableEq T] (h : m.Sound) (hstep : m.Step m') : m'.Sound := by
  cases hstep with
  | alloc hfree hnone => exact ⟨(h.moves_alloc hfree hnone).placed h.placed, h.nodup, h.fifo⟩
  | @write t b x hb =>
    -- the block is with its sender, so neither queued nor held
    have hunread : b ∉ m.receiver.unread ++ m.queue := by
      rw [List.mem_append, not_or]
      exact ⟨h.notMem_unread hb, h.notMem_queue hb⟩
    refine ⟨h.placed, h.nodup, ?_⟩
    show m.sent = m.received ++
      (m.receiver.unread ++ m.queue).map (Function.update m.memory b x)
    rw [map_memory_update x hunread]
    exact h.fifo
  | @put t b hb =>
    have hnodup : (m.queue ++ [b]).Nodup := by
      rw [← List.concat_eq_append]
      exact h.nodup.concat (h.notMem_queue hb)
    exact ⟨(h.moves_put hb).placed h.placed, hnodup, by simp [put, h.fifo]⟩
  | @get b rest hwaiting hqueue =>
    have hnodup := h.nodup
    have hfifo := h.fifo
    rw [hqueue, List.nodup_cons] at hnodup
    rw [hqueue, hwaiting] at hfifo
    exact ⟨(h.moves_get hwaiting hqueue).placed h.placed, hnodup.2, hfifo⟩
  | @read b hholding =>
    have hplaced : ∀ a p, (m.read b).At a p ↔ m.At a p := by
      intro a p
      cases p <;> simp [At, Mailbox.read, hholding, Receiver.block]
    have hfifo := h.fifo
    rw [hholding] at hfifo
    refine ⟨?_, h.nodup, ?_⟩
    · obtain ⟨place, hplace⟩ := h.placed
      exact ⟨place, fun a p => (hplaced a p).trans (hplace a p)⟩
    · simpa [Mailbox.read, Receiver.unread] using hfifo
  | release hread =>
    have hfifo := h.fifo
    rw [hread] at hfifo
    exact ⟨(h.moves_release hread).placed h.placed, h.nodup, hfifo⟩

end Sound

end Mailbox
