import PelionClientLite.Environment

/-!
# The pattern player of `blinky.cpp`

A `Blinky` plays a string of delays separated by `:`, toggling the LED and asking
the event system for one timer per delay, and keeps the timers of its two
periodic events going.  Here is all of the file that needs nothing but the object
itself, its two static variables, the heap and the event system; the handlers of
the periodic timers also touch the client and are in `Client`.

## Main definitions

* `Blinky` — the object, the static variables, and what the heap, the event
  system and the LED keep for it.
* `nextInt` — what `get_next_int` computes from the string it points at.
* `Blinky.start`, `Blinky.runStep`, `Blinky.handlePatternEvent`.
-/

namespace PelionClientLite

open CLib

/-- `BlinkyState`. -/
inductive BlinkyState where
  | idle
  | started
  deriving DecidableEq, Repr

/-- What the player asks of the event system and the LED. -/
inductive BlinkyCall where
  /-- `eventOS_event_send_after` of a tasklet event, after a delay in milliseconds. -/
  | sendAfter (type : BlinkyEvent) (delay : ℤ)
  /-- `toggle_led()`. -/
  | toggleLed
  deriving DecidableEq, Repr

/-- The player and its surroundings. -/
structure Blinky where
  /-- The address of the pattern buffer, or NULL. -/
  pattern : Option ℕ := none
  /-- The cursor, or NULL. -/
  currPattern : Option Ptr := none
  buttonCount : ℤ := 0
  state : BlinkyState := .idle
  restart : Bool := false
  /-- The static `_tasklet`. -/
  tasklet : ℤ := -1
  /-- `static_blinky` points at the player rather than being NULL. -/
  staticBlinky : Bool := false
  heap : Heap CString := .empty
  /-- The events the event system has taken for the tasklet and not delivered yet. -/
  pending : List BlinkyEvent := []
  /-- The calls made, newest first. -/
  log : List BlinkyCall := []

/-- `LONG_MIN` and `LONG_MAX` of a 32-bit `long`. -/
def longMin : ℤ := -2147483648

@[inherit_doc longMin] def longMax : ℤ := 2147483647

/-- `BUTTON_POLL_INTERVAL_MS`. -/
def buttonPollIntervalMs : ℤ := 100

/-- `AUTOMATIC_INCREMENT_INTERVAL_MS`, in queue mode. -/
def automaticIncrementIntervalMs : ℤ := 300000

/-- What `get_next_int` computes from the bytes at its cursor: the integer, `-1` if
there is none, and how far the cursor moves. -/
def nextInt (s : List UInt8) : ℤ × ℕ :=
  let (convResult, endptr) := strtol longMin longMax s
  if s.headD 0 ≠ 0 then
    -- ints are separated with ':', which is skipped here
    if (s.drop endptr).headD 0 = 58 then (convResult, endptr + 1)
    else if (s.drop endptr).headD 0 = 0 then (convResult, endptr)
    else (-1, endptr)
  else (-1, endptr)

namespace Blinky

/-! ### Events -/

/-- How many events of a type are pending. -/
def pendingCount (b : Blinky) (type : BlinkyEvent) : ℕ := b.pending.count type

/-- `request_timed_event`. -/
def requestTimedEvent (env : Env) (type : BlinkyEvent) (delay : ℤ) (b : Blinky) :
    Except Stop (Bool × Blinky) :=
  if b.tasklet < 0 then .error .assertionFailed
  else if env.sendAfter type then
    .ok (true, { b with pending := type :: b.pending, log := .sendAfter type delay :: b.log })
  else .ok (false, b)

/-- `request_next_loop_event`. -/
def requestNextLoopEvent (env : Env) (b : Blinky) : Except Stop Blinky := do
  let (_, b) ← b.requestTimedEvent env .loopTimer buttonPollIntervalMs
  return b

/-- `request_automatic_increment_event`. -/
def requestAutomaticIncrementEvent (env : Env) (b : Blinky) : Except Stop Blinky := do
  let (_, b) ← b.requestTimedEvent env .automaticIncrementTimer automaticIncrementIntervalMs
  return b

/-- `create_tasklet`: creating the event handler queues one initial event for it. -/
def createTasklet (env : Env) (b : Blinky) : Except Stop Blinky :=
  if b.tasklet < 0 then
    if env.handlerCreate < 0 then .error .assertionFailed
    else .ok { b with tasklet := env.handlerCreate, staticBlinky := true,
                      pending := .loopInit :: b.pending }
  else .ok b

/-- `start_loop`. -/
def startLoop (env : Env) (b : Blinky) : Except Stop Blinky := b.createTasklet env

/-! ### The pattern -/

/-- `stop`.  The timers already requested stay with the event system. -/
def stop (b : Blinky) : Blinky :=
  { b with heap := b.heap.free b.pattern, pattern := none, currPattern := none, state := .idle }

/-- `get_next_int`. -/
def getNextInt (b : Blinky) : Except Stop (ℤ × Blinky) :=
  match b.currPattern with
  | none => .error .nullDereference
  | some p =>
      match b.heap.block p.block with
      | none => .error .danglingPointer
      | some s =>
          if p.offset < s.bytes.length then
            let (result, moved) := nextInt (s.bytes.drop p.offset)
            .ok (result, { b with currPattern := some { p with offset := p.offset + moved } })
          else .error .danglingPointer

/-- `toggle_led`. -/
def toggleLed (b : Blinky) : Blinky := { b with log := .toggleLed :: b.log }

/-- `run_step`.  The `assert` is compiled in: with `NDEBUG` a timer that is refused makes the
player idle and `run_step` return `false`, so that what is said of refused timers below is
not said of such a build. -/
def runStep (env : Env) (b : Blinky) : Except Stop (Bool × Blinky) := do
  let (delay, b) ← b.getNextInt
  if delay < 0 then
    return (false, { b with state := .idle })
  else
    let (sent, b) ← b.requestTimedEvent env .patternTimer delay
    if sent then
      return (true, { b.toggleLed with state := .started })
    else throw .assertionFailed

/-- `start(pattern, length, pattern_restart)`, given the `length` bytes at `pattern`. -/
def start (env : Env) (pattern : List UInt8) (patternRestart : Bool) (b : Blinky) :
    Except Stop (Bool × Blinky) := do
  let b ← b.createTasklet env
  -- one may start again before the previous sequence has completed
  let b := { b with restart := patternRestart }.stop
  if env.malloc then
    let a := b.heap.next
    { b with heap := b.heap.malloc (.ofBytes pattern), pattern := some a,
             currPattern := some ⟨a, 0⟩ }.runStep env
  else return (false, b)

/-- `handle_pattern_event`. -/
def handlePatternEvent (env : Env) (b : Blinky) : Except Stop Blinky := do
  let (success, b) ← b.runStep env
  if !success && b.restart then
    let (_, b) ← { b with currPattern := b.pattern.map (⟨·, 0⟩) }.runStep env
    return b
  else return b

end Blinky

end PelionClientLite
