import Mathlib.Data.Int.Notation
import PelionClientLite.Lib.Run
import PelionClientLite.Lib.CLib

/-!
# What the program asks of its surroundings

The program is called by an event loop, and calls libraries that may fail.  What
they answer while one event is handled is an `Env`, handed to the handler along
with the event; the reasons for which a handler does not come back are a `Stop`.
-/

namespace PelionClientLite

/-- Why the program does not go on. -/
inductive Stop where
  /-- `mbed_client_default_reboot()`, which does not return. -/
  | reboot
  /-- A NULL pointer is read through. -/
  | nullDereference
  /-- A pointer is read through that points into no live block, or has never been set. -/
  | danglingPointer
  /-- An `assert` fails; they are compiled in. -/
  | assertionFailed
  /-- `main` returns. -/
  | mainReturned
  /-- The input cannot happen in this state. -/
  | refused
  deriving DecidableEq, Repr

/-- The event types of the tasklet of `blinky.cpp`. -/
inductive BlinkyEvent where
  | loopInit
  | patternInit
  | patternTimer
  | loopTimer
  | automaticIncrementTimer
  deriving DecidableEq, Repr

/-- What the libraries answer while one event is handled.  No handler makes one of
these calls twice, so one answer for each is all there is to say. -/
structure Env where
  /-- `malloc` returns a block. -/
  malloc : Bool := true
  /-- `eventOS_event_send_after` takes an event of this type for the tasklet. -/
  sendAfter : BlinkyEvent → Bool := fun _ => true
  /-- `eventOS_event_send_after` takes the wake-up event. -/
  sendWakeUp : Bool := true
  /-- What `eventOS_event_handler_create` returns for the tasklet. -/
  handlerCreate : ℤ := 1
  /-- What it returns for the wake-up handler. -/
  wakeUpHandlerCreate : ℤ := 2
  /-- `registry_get_value_int` returns `REGISTRY_STATUS_OK`. -/
  registryGetValueInt : Bool := true
  /-- `registry_set_value_int` returns `REGISTRY_STATUS_OK`. -/
  registrySetValueInt : Bool := true
  /-- `registry_get_value_string` returns `REGISTRY_STATUS_OK`. -/
  registryGetValueString : Bool := true

end PelionClientLite
