import Mathlib.Data.Finset.Insert
import PelionClientLite.Environment
import PelionClientLite.Lib.Mailbox
import PelionClientLite.Lib.Ownership

/-!
# Tracing the memory

`memory_statistics.c` is told of every allocation.  `mem_trace_cb_sender`, called in
the thread that allocates, fills a block of a pool and puts it into a queue;
`recv_thread` gets it, prints it, and frees it.  When the pool is empty the call is
dropped.

`printf` may allocate too: then `recv_thread` calls `mem_trace_cb_sender` itself, while
it holds a block.

## Main definitions

* `memTraceCbReceiver`, `MemTraceData.fill` — printing a block, and filling one.
* `MemoryStatistics`, `MemoryStatistics.step` — the pool, the queue and the threads.
* `MemoryStatistics.mailbox` — a mailbox of lines to print.
* `MemoryStatistics.Disciplined` — what is required of a state.

## Main results

* `MemoryStatistics.mailbox_step` — every step is one of the mailbox, or none.
* `MemoryStatistics.Tracked.step` — every call that is accepted is put once.
* `memoryStatistics_disciplined` — **each block is in one place, the queue is never
  full, and what is printed is what was put, in order.**
-/

namespace PelionClientLite

open Machine Ownership

/-! ### Calls and lines -/

/-- `op`: one of the four traced kinds, or another number. -/
inductive TraceOp where
  | malloc
  | realloc
  | calloc
  | free
  | other (op : ℕ)
  deriving DecidableEq, Repr

/-- A call of `mem_trace_cb_sender`.  The variable arguments are words; a kind that has
one argument leaves the second aside. -/
structure TraceCall where
  op : TraceOp
  res : ℕ
  caller : ℕ
  arg0 : ℕ
  arg1 : ℕ
  deriving DecidableEq, Repr

/-- The union in `mem_trace_data_t`: the first and the second word of each member. -/
structure TraceInfo where
  word0 : ℕ
  word1 : ℕ

/-- `mem_trace_data_t`. -/
structure MemTraceData where
  op : TraceOp
  res : ℕ
  caller : ℕ
  data : TraceInfo

/-- A line of the output. -/
inductive TraceLine where
  /-- `#m:<res>;<caller>-<size>` -/
  | malloc (res caller argSize : ℕ)
  /-- `#r:<res>;<caller>-<ptr>;<size>` -/
  | realloc (res caller argPtr argSize : ℕ)
  /-- `#c:<res>;<caller>-<nmemb>;<size>` -/
  | calloc (res caller argNmemb argSize : ℕ)
  /-- `#f:<res>;<caller>-<ptr>` -/
  | free (res caller argPtr : ℕ)
  /-- `error` -/
  | error
  deriving DecidableEq, Repr

/-- `mem_trace_cb_receiver`. -/
def memTraceCbReceiver (d : MemTraceData) : TraceLine :=
  match d.op with
  | .malloc => .malloc d.res d.caller d.data.word0
  | .realloc => .realloc d.res d.caller d.data.word0 d.data.word1
  | .calloc => .calloc d.res d.caller d.data.word0 d.data.word1
  | .free => .free d.res d.caller d.data.word0
  | .other _ => .error

/-- What `mem_trace_cb_sender` writes into its block. -/
def MemTraceData.fill (call : TraceCall) (d : MemTraceData) : Except Stop MemTraceData :=
  let d := { d with op := call.op, res := call.res, caller := call.caller }
  match call.op with
  | .malloc => .ok { d with data := { d.data with word0 := call.arg0 } }
  | .realloc => .ok { d with data := { word0 := call.arg0, word1 := call.arg1 } }
  | .calloc => .ok { d with data := { word0 := call.arg0, word1 := call.arg1 } }
  | .free => .ok { d with data := { d.data with word0 := call.arg0 } }
  | .other _ => .error .assertionFailed

/-- The line that tells of a call: its kind, its result, its caller and its arguments. -/
def TraceCall.line (call : TraceCall) : TraceLine :=
  match call.op with
  | .malloc => .malloc call.res call.caller call.arg0
  | .realloc => .realloc call.res call.caller call.arg0 call.arg1
  | .calloc => .calloc call.res call.caller call.arg0 call.arg1
  | .free => .free call.res call.caller call.arg0
  | .other _ => .error

/-- A block that has been filled prints the line of its call, whatever was in it. -/
theorem memTraceCbReceiver_of_fill {call : TraceCall} {d d' : MemTraceData}
    (h : d.fill call = .ok d') : memTraceCbReceiver d' = call.line := by
  obtain ⟨op, res, caller, arg0, arg1⟩ := call
  cases op with
  | other op => simp [MemTraceData.fill] at h
  | _ =>
    simp only [MemTraceData.fill, Except.ok.injEq] at h
    subst h
    rfl

/-- The call with this number has got its block, and not put it yet. -/
def pendingCall (accepted : List TraceCall) (puts : List (ℕ × TraceCall)) (p : ℕ × TraceCall) :
    Option Unit :=
  if accepted[p.1]? = some p.2 ∧ p ∉ puts then some () else none

theorem pendingCall_eq_some {accepted : List TraceCall} {puts : List (ℕ × TraceCall)}
    {p : ℕ × TraceCall} {x : Unit} :
    pendingCall accepted puts p = some x ↔ accepted[p.1]? = some p.2 ∧ p ∉ puts := by
  simp [pendingCall]

/-- A call that gets a block is one more to be put. -/
theorem pendingCall_accept {accepted : List TraceCall} {puts : List (ℕ × TraceCall)}
    (hown : ∀ p ∈ puts, accepted[p.1]? = some p.2) (call : TraceCall) :
    pendingCall (accepted ++ [call]) puts =
      Function.update (pendingCall accepted puts) (accepted.length, call) (some ()) := by
  funext p
  by_cases hp : p = (accepted.length, call)
  · subst hp
    have hnew : (accepted.length, call) ∉ puts := by
      intro hmem
      simpa using hown _ hmem
    rw [Function.update_self, pendingCall, if_pos ⟨by simp, hnew⟩]
  · rw [Function.update_of_ne hp]
    have hsame : (accepted ++ [call])[p.1]? = some p.2 ↔ accepted[p.1]? = some p.2 := by
      rcases Nat.lt_trichotomy p.1 accepted.length with hlt | heq | hgt
      · rw [List.getElem?_append_left hlt]
      · have hcall : call ≠ p.2 := fun hcall => hp (Prod.ext heq hcall.symm)
        simp [heq, hcall]
      · have hge : accepted.length ≤ p.1 := by omega
        have hge' : (accepted ++ [call]).length ≤ p.1 := by
          rw [List.length_append, List.length_singleton]
          omega
        simp [List.getElem?_eq_none hge, List.getElem?_eq_none hge']
    simp only [pendingCall, hsame]

/-- A call that is put is one less. -/
theorem pendingCall_put (accepted : List TraceCall) (puts : List (ℕ × TraceCall))
    (p : ℕ × TraceCall) :
    pendingCall accepted (puts ++ [p]) = Function.update (pendingCall accepted puts) p none := by
  funext q
  by_cases hq : q = p
  · rw [hq, Function.update_self]
    simp [pendingCall]
  · rw [Function.update_of_ne hq]
    simp [pendingCall, hq]

/-! ### The threads -/

/-- The threads that allocate: any, or `recv_thread` itself. -/
inductive TracedThread (Thread : Type) where
  | other (t : Thread)
  | recvThread
  deriving DecidableEq

/-- A block of the pool. -/
abbrev Block := Fin 64

/-- Where a thread is in `mem_trace_cb_sender`; `n` is the number of the call among those
that got a block. -/
inductive SenderPoint where
  /-- Not in it. -/
  | idle
  /-- `osPoolAlloc` has returned a block. -/
  | allocated (b : Block) (n : ℕ) (call : TraceCall)
  /-- The block has been filled. -/
  | filled (b : Block) (n : ℕ) (call : TraceCall)

namespace SenderPoint

/-- The block `trace_data` points to. -/
def block : SenderPoint → Option Block
  | idle => none
  | allocated b _ _ => some b
  | filled b _ _ => some b

/-- The call, with its number. -/
def entry : SenderPoint → Option (ℕ × TraceCall)
  | idle => none
  | allocated _ n call => some (n, call)
  | filled _ n call => some (n, call)

def isIdle : SenderPoint → Bool
  | idle => true
  | _ => false

end SenderPoint

/-- The pool, the queue and the threads, and what has been traced. -/
structure MemoryStatistics (Thread : Type) where
  /-- The free blocks of `mpool`. -/
  mpool : Finset Block := Finset.univ
  memory : Block → MemTraceData
  /-- The blocks in `MsgBox`. -/
  msgBox : List Block := []
  senders : TracedThread Thread → SenderPoint := fun _ => .idle
  recvThread : Mailbox.Receiver Block := .waiting
  /-- The calls that got a block, in order. -/
  accepted : List TraceCall := []
  /-- The calls that got none. -/
  dropped : List TraceCall := []
  /-- The calls whose block has been put, with their numbers. -/
  puts : List (ℕ × TraceCall) := []
  /-- What has been printed. -/
  lines : List TraceLine := []

/-- What may happen. -/
inductive TraceInput (Thread : Type) where
  /-- A thread calls `mem_trace_cb_sender`; `b` is the block the pool gives, if it has one. -/
  | call (t : TracedThread Thread) (call : TraceCall) (b : Block)
  | fill (t : TracedThread Thread)
  | put (t : TracedThread Thread)
  | get
  | print
  | free

namespace MemoryStatistics

variable {Thread : Type} {s t : MemoryStatistics Thread} {i : TraceInput Thread}

/-- `recv_thread` allocates inside `mem_trace_cb_receiver` only. -/
def mayCall (s : MemoryStatistics Thread) : TracedThread Thread → Bool
  | .other _ => true
  | .recvThread => s.recvThread.block.isSome

section Steps

variable [DecidableEq Thread]

/-- One step of one thread.  A step that has to wait is refused; so is one of `recv_thread`
while a call it has made itself goes on. -/
def step (s : MemoryStatistics Thread) : TraceInput Thread → Except Stop (MemoryStatistics Thread)
  | .call t call b =>
      match s.senders t with
      | .idle =>
          if s.mayCall t then
            if s.mpool = ∅ then .ok { s with dropped := s.dropped ++ [call] }
            else if b ∈ s.mpool then
              .ok { s with mpool := s.mpool.erase b, accepted := s.accepted ++ [call],
                           senders := Function.update s.senders t
                             (.allocated b s.accepted.length call) }
            else .error .refused
          else .error .refused
      | _ => .error .refused
  | .fill t =>
      match s.senders t with
      | .allocated b n call => do
          let d ← (s.memory b).fill call
          return { s with memory := Function.update s.memory b d,
                          senders := Function.update s.senders t (.filled b n call) }
      | _ => .error .refused
  | .put t =>
      match s.senders t with
      | .filled b n call =>
          if s.msgBox.length < 64 then
            .ok { s with msgBox := s.msgBox ++ [b], puts := s.puts ++ [(n, call)],
                         senders := Function.update s.senders t .idle }
          else .error .refused
      | _ => .error .refused
  | .get =>
      match s.recvThread, s.msgBox with
      | .waiting, b :: rest => .ok { s with msgBox := rest, recvThread := .holding b }
      | _, _ => .error .refused
  | .print =>
      match s.recvThread with
      | .holding b =>
          if (s.senders .recvThread).isIdle then
            .ok { s with lines := s.lines ++ [memTraceCbReceiver (s.memory b)],
                         recvThread := .read b }
          else .error .refused
      | _ => .error .refused
  | .free =>
      match s.recvThread with
      | .read b =>
          if (s.senders .recvThread).isIdle then
            .ok { s with mpool := insert b s.mpool, recvThread := .waiting }
          else .error .refused
      | _ => .error .refused

/-- What a step can be. -/
inductive Steps (s : MemoryStatistics Thread) :
    TraceInput Thread → MemoryStatistics Thread → Prop where
  | drops (t : TracedThread Thread) (call : TraceCall) (b : Block) (hempty : s.mpool = ∅) :
      Steps s (.call t call b) { s with dropped := s.dropped ++ [call] }
  | accepts {t : TracedThread Thread} {call : TraceCall} {b : Block} (hidle : s.senders t = .idle)
      (hb : b ∈ s.mpool) :
      Steps s (.call t call b)
        { s with mpool := s.mpool.erase b, accepted := s.accepted ++ [call],
                 senders := Function.update s.senders t (.allocated b s.accepted.length call) }
  | fills {t : TracedThread Thread} {b : Block} {n : ℕ} {call : TraceCall} {d : MemTraceData}
      (ht : s.senders t = .allocated b n call) (hd : (s.memory b).fill call = .ok d) :
      Steps s (.fill t)
        { s with memory := Function.update s.memory b d,
                 senders := Function.update s.senders t (.filled b n call) }
  | puts {t : TracedThread Thread} {b : Block} {n : ℕ} {call : TraceCall}
      (ht : s.senders t = .filled b n call) :
      Steps s (.put t)
        { s with msgBox := s.msgBox ++ [b], puts := s.puts ++ [(n, call)],
                 senders := Function.update s.senders t .idle }
  | gets {b : Block} {rest : List Block} (hwaiting : s.recvThread = .waiting)
      (hqueue : s.msgBox = b :: rest) :
      Steps s .get { s with msgBox := rest, recvThread := .holding b }
  | prints {b : Block} (hholding : s.recvThread = .holding b) :
      Steps s .print
        { s with lines := s.lines ++ [memTraceCbReceiver (s.memory b)], recvThread := .read b }
  | frees {b : Block} (hread : s.recvThread = .read b) :
      Steps s .free { s with mpool := insert b s.mpool, recvThread := .waiting }


theorem steps_of_step (h : s.step i = .ok t) : s.Steps i t := by
  cases i with
  | call u call b =>
    simp only [step] at h
    split at h
    · next hidle =>
      split at h
      · split at h
        · next hempty =>
          rw [Except.ok.injEq] at h
          exact h ▸ .drops u call b hempty
        · split at h
          · next hb =>
            rw [Except.ok.injEq] at h
            exact h ▸ .accepts hidle hb
          · simp at h
      · simp at h
    · simp at h
  | fill u =>
    simp only [step] at h
    split at h
    · next b n call hu =>
      obtain ⟨d, hd, rfl⟩ := bind_pure_eq_ok.mp h
      exact .fills hu hd
    · simp at h
  | put u =>
    simp only [step] at h
    split at h
    · next b n call hu =>
      split at h
      · rw [Except.ok.injEq] at h
        exact h ▸ .puts hu
      · simp at h
    · simp at h
  | get =>
    simp only [step] at h
    split at h
    · next b rest hwaiting hqueue =>
      rw [Except.ok.injEq] at h
      exact h ▸ .gets hwaiting hqueue
    · simp at h
  | print =>
    simp only [step] at h
    split at h
    · next b hholding =>
      split at h
      · rw [Except.ok.injEq] at h
        exact h ▸ .prints hholding
      · simp at h
    · simp at h
  | free =>
    simp only [step] at h
    split at h
    · next b hread =>
      split at h
      · rw [Except.ok.injEq] at h
        exact h ▸ .frees hread
      · simp at h
    · simp at h

/-! ### A mailbox of lines -/

/-- The blocks as a mailbox: what is in a block is the line it would print. -/
def mailbox (s : MemoryStatistics Thread) : Mailbox Block (TracedThread Thread) TraceLine where
  free := s.mpool
  memory := memTraceCbReceiver ∘ s.memory
  queue := s.msgBox
  sending := SenderPoint.block ∘ s.senders
  receiver := s.recvThread
  sent := s.puts.map fun p => p.2.line
  received := s.lines

/-- What is known of the calls: those that have got a block and not put it are the ones the
threads are at; no call is put twice; and a block that is filled has its call's line. -/
structure Tracked (s : MemoryStatistics Thread) : Prop where
  matched : Matched (SenderPoint.entry ∘ s.senders) (pendingCall s.accepted s.puts)
  own : ∀ p ∈ s.puts, s.accepted[p.1]? = some p.2
  once : s.puts.Nodup
  filled : ∀ t b n call, s.senders t = .filled b n call →
    memTraceCbReceiver (s.memory b) = call.line

/-- **Every step is one of the mailbox, or none.** -/
theorem mailbox_step (hs : s.Tracked) (h : s.Steps i t) :
    t.mailbox = s.mailbox ∨ s.mailbox.Step t.mailbox := by
  cases h with
  | drops => exact Or.inl rfl
  | @accepts u call b hidle hb =>
    have hnone : s.mailbox.sending u = none := congrArg SenderPoint.block hidle
    have hstep := Mailbox.Step.alloc (m := s.mailbox) hb hnone
    refine Or.inr ?_
    simpa [Mailbox.alloc, mailbox, Function.comp_update, SenderPoint.block] using hstep
  | @fills u b n call d hu hd =>
    have hsome : s.mailbox.sending u = some b := congrArg SenderPoint.block hu
    -- the thread keeps its block
    have hkeeps : Function.update (SenderPoint.block ∘ s.senders) u (some b) =
        SenderPoint.block ∘ s.senders :=
      Function.update_eq_self_iff.mpr hsome.symm
    have hstep := Mailbox.Step.write (m := s.mailbox) (memTraceCbReceiver d) hsome
    refine Or.inr ?_
    simpa [Mailbox.write, mailbox, Function.comp_update, SenderPoint.block, hkeeps] using hstep
  | @puts u b n call hu =>
    have hsome : s.mailbox.sending u = some b := congrArg SenderPoint.block hu
    have hline := hs.filled u b n call hu
    have hstep := Mailbox.Step.put (m := s.mailbox) hsome
    refine Or.inr ?_
    simpa [Mailbox.put, mailbox, Function.comp_update, SenderPoint.block, hline] using hstep
  | gets hwaiting hqueue => exact Or.inr (.get hwaiting hqueue)
  | prints hholding => exact Or.inr (.read hholding)
  | frees hread => exact Or.inr (.release hread)

/-! ### The calls -/

/-- A thread that goes elsewhere leaves what the others have filled. -/
theorem Tracked.filled_update (hs : s.Tracked) (u : TracedThread Thread) {q : SenderPoint}
    (hq : ∀ b n call, q ≠ .filled b n call) :
    ∀ v b n call, Function.update s.senders u q v = .filled b n call →
      memTraceCbReceiver (s.memory b) = call.line := by
  intro v b n call hv
  by_cases hvu : v = u
  · rw [hvu, Function.update_self] at hv
    exact absurd hv (hq b n call)
  · rw [Function.update_of_ne hvu] at hv
    exact hs.filled v b n call hv

/-- **Every step keeps track of the calls.** -/
theorem Tracked.step (hs : s.Tracked) (hm : s.mailbox.Sound) (h : s.Steps i t) : t.Tracked := by
  cases h with
  | drops => exact ⟨hs.matched, hs.own, hs.once, hs.filled⟩
  | @accepts u call b hidle hb =>
    have hnone : (SenderPoint.entry ∘ s.senders) u = none := congrArg SenderPoint.entry hidle
    have hnew : pendingCall s.accepted s.puts (s.accepted.length, call) = none := by
      simp [pendingCall]
    have htake := hs.matched.take hnew () hnone
    rw [← pendingCall_accept hs.own] at htake
    refine ⟨?_, ?_, hs.once, ?_⟩
    · simpa [Function.comp_update, SenderPoint.entry] using htake
    · intro p hp
      have hacc := hs.own p hp
      exact List.getElem?_append_left (List.getElem?_eq_some_iff.mp hacc).1 |>.trans hacc
    · exact hs.filled_update u (by simp)
  | @fills u b n call d hu hd =>
    refine ⟨?_, hs.own, hs.once, ?_⟩
    · have hentry : (SenderPoint.entry ∘ s.senders) u = some (n, call) :=
        congrArg SenderPoint.entry hu
      have hkeeps : Function.update (SenderPoint.entry ∘ s.senders) u (some (n, call)) =
          SenderPoint.entry ∘ s.senders :=
        Function.update_eq_self_iff.mpr hentry.symm
      simpa [Function.comp_update, SenderPoint.entry, hkeeps] using hs.matched
    · intro v b' n' call' hv
      by_cases hvu : v = u
      · subst hvu
        simp only [Function.update_self, SenderPoint.filled.injEq] at hv
        obtain ⟨rfl, rfl, rfl⟩ := hv
        show memTraceCbReceiver (Function.update s.memory b d b) = call.line
        rw [Function.update_self]
        exact memTraceCbReceiver_of_fill hd
      · -- another thread's block is another block
        have hfilled : s.senders v = .filled b' n' call' := by simpa [hvu] using hv
        have hb' : b' ≠ b := by
          rintro rfl
          have hplace := hm.place_unique (p := .sending v) (q := .sending u)
            (congrArg SenderPoint.block hfilled) (congrArg SenderPoint.block hu)
          simp [hvu] at hplace
        show memTraceCbReceiver (Function.update s.memory b d b') = call'.line
        rw [Function.update_of_ne hb']
        exact hs.filled v b' n' call' hfilled
  | @puts u b n call hu =>
    have hentry : (SenderPoint.entry ∘ s.senders) u = some (n, call) :=
      congrArg SenderPoint.entry hu
    obtain ⟨x, hx⟩ := hs.matched.used u (n, call) hentry
    obtain ⟨hacc, hnot⟩ := pendingCall_eq_some.mp hx
    have hrelease := hs.matched.release hentry
    rw [← pendingCall_put] at hrelease
    refine ⟨?_, ?_, ?_, ?_⟩
    · simpa [Function.comp_update, SenderPoint.entry] using hrelease
    · intro p hp
      rcases List.mem_append.mp hp with hp | hp
      · exact hs.own p hp
      · rw [List.mem_singleton.mp hp]
        exact hacc
    · show (s.puts ++ [(n, call)]).Nodup
      rw [← List.concat_eq_append]
      exact hs.once.concat hnot
    · exact hs.filled_update u (by simp)
  | gets => exact ⟨hs.matched, hs.own, hs.once, hs.filled⟩
  | prints => exact ⟨hs.matched, hs.own, hs.once, hs.filled⟩
  | frees => exact ⟨hs.matched, hs.own, hs.once, hs.filled⟩

end Steps

/-! ### The discipline -/

/-- Where a block is. -/
def At (s : MemoryStatistics Thread) (b : Block) : Mailbox.Place (TracedThread Thread) → Prop
  | .free => b ∈ s.mpool
  | .sending t => (s.senders t).block = some b
  | .queued => b ∈ s.msgBox
  | .held => s.recvThread.block = some b

/-- What is required of a state: each block is in one place, and queued once; a thread
about to put its block finds room; what has been printed are the lines of the calls that
have been put, in order; those are calls that got a block, each of them once; and a call
that got a block has been put, or a thread is at it. -/
structure Disciplined (s : MemoryStatistics Thread) : Prop where
  place : ∀ b, ∃! p, s.At b p
  queuedOnce : s.msgBox.Nodup
  room : ∀ t b n call, s.senders t = .filled b n call → s.msgBox.length < 64
  printed : s.lines <+: s.puts.map fun p => p.2.line
  own : ∀ p ∈ s.puts, s.accepted[p.1]? = some p.2
  putOnce : s.puts.Nodup
  kept : ∀ n call, s.accepted[n]? = some call →
    (n, call) ∈ s.puts ∨ ∃ t, (s.senders t).entry = some (n, call)

/-- A call is dropped only when no block is free. -/
def DropsWhenEmpty [DecidableEq Thread] (s : MemoryStatistics Thread) (i : TraceInput Thread) :
    Prop :=
  ∀ t, s.step i = .ok t → t.dropped ≠ s.dropped → s.mpool = ∅

theorem dropsWhenEmpty [DecidableEq Thread] (s : MemoryStatistics Thread) (i : TraceInput Thread) :
    s.DropsWhenEmpty i := by
  intro t h hne
  cases steps_of_step h with
  | drops _ _ _ hempty => exact hempty
  | _ => exact absurd rfl hne

theorem Tracked.disciplined (hs : s.Tracked) (hm : s.mailbox.Sound) : s.Disciplined where
  place := by
    intro b
    have hsame : ∀ p, s.At b p ↔ s.mailbox.At b p := by
      intro p
      cases p <;> rfl
    exact (existsUnique_congr hsame).mpr (hm.existsUnique_place b)
  queuedOnce := hm.nodup
  room := by
    intro t b n call ht
    have hlt := hm.length_lt (t := t) (b := b) (congrArg SenderPoint.block ht)
    rwa [Fintype.card_fin] at hlt
  printed := hm.received_prefix
  own := hs.own
  putOnce := hs.once
  kept := by
    intro n call hacc
    by_cases hput : (n, call) ∈ s.puts
    · exact Or.inl hput
    · exact Or.inr (hs.matched.held (n, call) () (pendingCall_eq_some.mpr ⟨hacc, hput⟩))

theorem tracked_start (memory : Block → MemTraceData) :
    Tracked { memory := memory : MemoryStatistics Thread } where
  matched := by
    have hnone : pendingCall [] [] = fun _ => none := by
      funext p
      simp [pendingCall]
    show Matched (fun _ => none) (pendingCall [] [])
    rw [hnone]
    exact Matched.empty
  own := by simp
  once := List.nodup_nil
  filled := by simp

end MemoryStatistics

/-- **The pool and the queue are in order in every state, and a call is dropped only when
no block is free**, for all interleavings of any threads with `recv_thread`. -/
theorem memoryStatistics_disciplined {Thread : Type} [DecidableEq Thread]
    (memory : Block → MemTraceData) (is : List (TraceInput Thread)) :
    (Always MemoryStatistics.step { memory } is fun _ s => s.Disciplined) ∧
      EachStep MemoryStatistics.step { memory } is fun _ s i => s.DropsWhenEmpty i := by
  constructor
  · intro pre s _ h
    have hs : s.Tracked ∧ s.mailbox.Sound := by
      refine run_invariant (I := fun s => s.Tracked ∧ s.mailbox.Sound) ?_ h
        ⟨MemoryStatistics.tracked_start memory, Mailbox.sound_start _⟩
      intro u i t ht hu
      have hsteps := MemoryStatistics.steps_of_step ht
      refine ⟨hu.1.step hu.2 hsteps, ?_⟩
      rcases MemoryStatistics.mailbox_step hu.1 hsteps with heq | hstep
      · rw [heq]
        exact hu.2
      · exact hu.2.step hstep
    exact hs.1.disciplined hs.2
  · intro pre i s _ _
    exact s.dropsWhenEmpty i

/-- `printf` frees memory while `recv_thread` prints. -/
example :
    ((run MemoryStatistics.step
      ({ memory := fun _ => ⟨.free, 0, 0, ⟨0, 0⟩⟩ } : MemoryStatistics Unit)
      [.call (.other ()) ⟨.malloc, 16, 32, 8, 0⟩ 0, .fill (.other ()), .put (.other ()), .get,
        .call .recvThread ⟨.free, 0, 64, 16, 0⟩ 1, .fill .recvThread, .put .recvThread, .print,
        .free]).map fun s => (s.lines, s.msgBox)).toOption =
      some ([TraceLine.malloc 16 32 8], [1]) := by
  decide

end PelionClientLite
