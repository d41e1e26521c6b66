import Mathlib.Algebra.Group.Nat.Defs
import PelionClientLite.Setup
import PelionClientLite.Blinky

/-!
# The client application of `pdmc_client_example.cpp`

The handlers of this file, and those of `blinky.cpp` that touch the client.  They
run to their end without waiting; the functions that wait for the network are in
`Device`.

## Main definitions

* `Client` — the variables of the file.
* `App` — all the program's variables together, with what the event system, the
  registry and the buttons keep for it.
* `App.pdmcEventHandler` — the handler of client events.
* `App.blinkCallback`, `App.sendApplicationResponse` — a POST and its response.
* `App.blinkyEventHandlerWrapper` — the handler of the tasklet's events.
* `Client.requestNextWakeUp` — arming the wake-up timer.
-/

namespace PelionClientLite

/-! ### Events and requests -/

/-- `lwm2m_interface_error_t`. -/
inductive Lwm2mError where
  | none
  | alreadyExists
  | bootstrapFailed
  | invalidParameters
  | notRegistered
  | timeout
  | networkError
  | responseParseFailed
  | unknownError
  | memoryFail
  | notAllowed
  | secureConnectionFailed
  | dnsResolvingFailed
  | unregistrationFailed
  | other (code : ℕ)
  deriving DecidableEq, Repr

/-- The `event_type` of a client event: the mark of the event that creating the
handler queues, or a number that an error event uses for its error code. -/
inductive EventType where
  | startup
  | code (e : Lwm2mError)
  deriving DecidableEq, Repr

/-- The `event_id` of a client event. -/
inductive EventId where
  | objectRegistered
  | objectUnregistered
  | registrationUpdated
  | valueUpdated
  | error
  | bootstrapDone
  | setupCompleted
  | other (id : ℕ)
  deriving DecidableEq, Repr

/-- A client event, `arm_event_t`. -/
structure ClientEvent where
  eventType : EventType
  eventId : EventId
  deriving DecidableEq, Repr

/-- `registry_path_t`, as the program fills it in. -/
structure RegistryPath where
  objectId : ℕ
  objectInstanceId : ℕ
  resourceId : ℕ
  deriving DecidableEq, Repr

/-- `registry_callback_token_t`: `token_size` bytes. -/
structure Token where
  token : List UInt8
  deriving DecidableEq, Repr

/-- `registry_callback_type_t`. -/
inductive CallbackType where
  | execute
  | valueUpdated
  | other
  deriving DecidableEq, Repr

/-- `registry_notification_status_t`. -/
inductive NotificationStatus where
  | ignore
  | delivered
  | sendFailed
  | other
  deriving DecidableEq, Repr

/-- The event types of the wake-up handler. -/
inductive WakeUpEvent where
  | init
  | wake
  deriving DecidableEq, Repr

/-- What the application does that is seen from outside, and what it is asked to;
newest first in `App.log`. -/
inductive Call where
  /-- A POST to the blink resource is accepted. -/
  | postAccepted (path : RegistryPath) (token : Token)
  /-- `send_final_response` to a deferred request, when its timeout fires. -/
  | deferredResponse (path : RegistryPath) (token : Token)
  /-- `send_final_response` to a request at once, asking to be told of the delivery. -/
  | promptResponse (path : RegistryPath) (token : Token)
  /-- `pdmc_connect_register`. -/
  | connectRegister (iface : Option NetworkInterface)
  /-- `pdmc_connect_resume`. -/
  | connectResume (iface : Option NetworkInterface)
  /-- `pdmc_connect_pause`. -/
  | connectPause
  /-- `pdmc_connect_close`. -/
  | connectClose
  /-- `sleep_callback_function` is called. -/
  | sleepCallback
  /-- `pdmc_client_resume` is called. -/
  | clientResume
  deriving DecidableEq, Repr

/-! ### The variables -/

/-- The variables of the file, and the pending events of the wake-up handler. -/
structure Client where
  registered : Bool := false
  registerCalled : Bool := false
  paused : Bool := false
  wakeUpHandler : ℤ := -1
  /-- The event handler has been created and the client started. -/
  initialised : Bool := false
  counter : ℤ := 0
  executePath : RegistryPath := ⟨0, 0, 0⟩
  executeToken : Token := ⟨[]⟩
  pdmcClientErrorCount : ℕ := 0
  wakeUpRequested : Bool := false
  /-- The events the event system has taken for the wake-up handler. -/
  wakePending : List WakeUpEvent := []

/-- The resources of the registry: whether each exists, and its value. -/
structure Registry where
  /-- 3200/0/5501. -/
  counter : Option ℤ := none
  /-- 3201/0/5853. -/
  pattern : Option (List UInt8) := none
  /-- 3201/0/5850. -/
  blink : Bool := false
  /-- 5000/0/1. -/
  unregister : Bool := false

/-- The button flags of `setup.cpp`, set by interrupts. -/
structure Buttons where
  resourcePressed : Bool := false
  unregisterPressed : Bool := false

/-- All the variables of the program. -/
structure App where
  net : Net
  client : Client := {}
  blinky : Blinky := {}
  registry : Registry := {}
  buttons : Buttons := {}
  /-- The timeouts of `send_application_response` registered and not fired yet. -/
  responsesDue : ℕ := 0
  log : List Call := []

/-- `MAX_PDMC_CLIENT_ERROR_COUNT`. -/
def maxPdmcClientErrorCount : ℕ := 5

/-- `MAX_PDMC_CLIENT_INIT_CONNECTION_ERROR_COUNT`. -/
def maxPdmcClientInitConnectionErrorCount : ℕ := 9

namespace Client

/-- `reboot_if_threshold_value`. -/
def rebootIfThresholdValue (threshold : ℕ) (c : Client) : Except Stop Client :=
  let c := { c with pdmcClientErrorCount := c.pdmcClientErrorCount + 1 }
  if c.pdmcClientErrorCount = threshold then .error .reboot else .ok c

/-- `pdmc_client_unregistered`. -/
def pdmcClientUnregistered (c : Client) : Client :=
  { c with registered := false, registerCalled := false }

/-- `pdmc_client_registration_updated`. -/
def pdmcClientRegistrationUpdated (c : Client) : Client := { c with pdmcClientErrorCount := 0 }

/-- The error codes `pdmc_client_error_event` counts. -/
def isCountedError : Lwm2mError → Bool
  | .networkError => true
  | .dnsResolvingFailed => true
  | .secureConnectionFailed => true
  | .timeout => true
  | _ => false

/-- `pdmc_client_error_event`. -/
def pdmcClientErrorEvent (errorCode : Lwm2mError) (c : Client) : Except Stop Client :=
  if isCountedError errorCode then c.rebootIfThresholdValue maxPdmcClientErrorCount else .ok c

/-- `request_next_wake_up`: without room for the event the device is rebooted. -/
def requestNextWakeUp (env : Env) (c : Client) : Except Stop Client :=
  if c.wakeUpRequested then .ok c
  else
    let c :=
      if c.wakeUpHandler < 0 then
        { c with wakeUpHandler := env.wakeUpHandlerCreate,
                 wakePending := if env.wakeUpHandlerCreate < 0 then c.wakePending
                   else .init :: c.wakePending }
      else c
    if env.sendWakeUp then
      .ok { c with wakePending := .wake :: c.wakePending, wakeUpRequested := true }
    else .error .reboot

end Client

namespace App

/-- A call added to the log. -/
def record (call : Call) (a : App) : App := { a with log := call :: a.log }

/-! ### Client events -/

/-- `pdmc_client_registered`. -/
def pdmcClientRegistered (env : Env) (a : App) : Except Stop App := do
  let client := { a.client with registered := true, pdmcClientErrorCount := 0 }
  let blinky ← a.blinky.startLoop env
  let blinky ← blinky.requestNextLoopEvent env
  let blinky ← blinky.requestAutomaticIncrementEvent env
  let client ← client.requestNextWakeUp env
  return { a with client, blinky }

/-- `register_pdmc_client`. -/
def registerPdmcClient (a : App) : App := a.record (.connectRegister a.net.getNetworkInterface)

/-- `pdmc_client_close`. -/
def pdmcClientClose (a : App) : App := a.record .connectClose

/-- `pdmc_event_handler`. -/
def pdmcEventHandler (env : Env) (event : ClientEvent) (a : App) : Except Stop App :=
  match event.eventType with
  | .startup => .ok a
  | .code errorCode =>
      match event.eventId with
      | .objectRegistered => a.pdmcClientRegistered env
      | .objectUnregistered => .ok { a with client := a.client.pdmcClientUnregistered }
      | .registrationUpdated => .ok { a with client := a.client.pdmcClientRegistrationUpdated }
      | .valueUpdated => .ok a
      | .error => do
          let client ← a.client.pdmcClientErrorEvent errorCode
          return { a with client }
      | .bootstrapDone => .ok a
      | .setupCompleted => .ok a.registerPdmcClient
      | .other _ => .ok a

/-! ### Requests from the server -/

/-- `registry_get_value_string` of the pattern.  Unless it succeeds, the pointer it was to
set is left as it is. -/
def patternStr (env : Env) (a : App) : Option (List UInt8) :=
  if env.registryGetValueString then a.registry.pattern else none

/-- `blink_callback`.  The pattern string is read up to its NUL. -/
def blinkCallback (env : Env) (type : CallbackType) (path : RegistryPath) (token : Token)
    (a : App) : Except Stop App :=
  match type with
  | .execute =>
      match a.patternStr env with
      -- the status is not looked at, and `strlen` reads through a pointer never set
      | none => .error .danglingPointer
      | some patternStr => do
          let client := { a.client with executeToken := token, executePath := path }
          let (_, blinky) ← a.blinky.start env (patternStr.takeWhile (· != 0)) false
          return { a with client, blinky, responsesDue := a.responsesDue + 1 }.record
            (.postAccepted path token)
  | _ => .ok a

/-- `send_application_response`. -/
def sendApplicationResponse (a : App) : App :=
  a.record (.deferredResponse a.client.executePath a.client.executeToken)

/-- `unregister_callback`. -/
def unregisterCallback (path : RegistryPath) (token : Token) (status : NotificationStatus)
    (a : App) : App :=
  match status with
  -- the POST itself, to be answered before the client goes
  | .ignore => a.record (.promptResponse path token)
  | .delivered => a.record .connectClose
  | .sendFailed => a.record .connectClose
  | .other => a

/-! ### The periodic timers of the tasklet -/

/-- `increment_button_value`.  The value read, one more, is truncated to the `int` in which
the player keeps the count. -/
def incrementButtonValue (env : Env) (a : App) : Bool × App :=
  let currentValue : ℤ := if env.registryGetValueInt then a.registry.counter.getD (-1) else -1
  let buttonCount := (currentValue + 1).bmod (2 ^ 32)
  let a := { a with blinky := { a.blinky with buttonCount } }
  if env.registrySetValueInt && a.registry.counter.isSome then
    (true, { a with registry := { a.registry with counter := some buttonCount } })
  else (false, a)

/-- What `handle_buttons` does for a client that has been told to register. -/
def clickButtons (env : Env) (a : App) : App :=
  let a :=
    if a.buttons.resourcePressed then
      ({ a with buttons := { a.buttons with resourcePressed := false } }.incrementButtonValue env).2
    else a
  if a.buttons.unregisterPressed then
    { a with buttons := { a.buttons with unregisterPressed := false } }.pdmcClientClose
  else a

/-- `handle_buttons`. -/
def handleButtons (env : Env) (a : App) : Except Stop App := do
  let blinky ← a.blinky.requestNextLoopEvent env
  let a := { a with blinky }
  if a.client.registerCalled then return a.clickButtons env else return a

/-- `handle_automatic_increment`. -/
def handleAutomaticIncrement (env : Env) (a : App) : Except Stop App := do
  let blinky ← a.blinky.requestAutomaticIncrementEvent env
  let a := { a with blinky }
  if a.client.registerCalled then return (a.incrementButtonValue env).2 else return a

/-- `blinky_event_handler_wrapper` and `event_handler`.  Only the initial event comes
without a pointer to the player. -/
def blinkyEventHandlerWrapper (env : Env) (type : BlinkyEvent) (a : App) : Except Stop App :=
  match type with
  | .loopInit =>
      if a.blinky.staticBlinky then do
        let blinky ← a.blinky.requestNextLoopEvent env
        return { a with blinky }
      else .error .nullDereference
  | .patternTimer => do
      let blinky ← a.blinky.handlePatternEvent env
      return { a with blinky }
  | .loopTimer => a.handleButtons env
  | .automaticIncrementTimer => a.handleAutomaticIncrement env
  | .patternInit => .ok a

/-! ### Starting the client -/

/-- What the calls of `init_example_resources` return: whether each of the four
resources can be created, and each of the two values set. -/
structure ResourceEnv where
  addButton : Bool := true
  setCounter : Bool := true
  addPattern : Bool := true
  setPattern : Bool := true
  addBlink : Bool := true
  addUnregister : Bool := true

/-- The pattern a device starts with, `500:500:500:500`. -/
def defaultPattern : List UInt8 := [53, 48, 48, 58, 53, 48, 48, 58, 53, 48, 48, 58, 53, 48, 48]

/-- `init_example_resources`. -/
def initExampleResources (env : ResourceEnv) (a : App) : Bool × App :=
  if !env.addButton then (false, a) else
  let a := { a with client := { a.client with counter := 0 } }
  if !env.setCounter then (false, a) else
  let a := { a with registry := { a.registry with counter := some a.client.counter } }
  if !env.addPattern then (false, a) else
  if !env.setPattern then (false, a) else
  let a := { a with registry := { a.registry with pattern := some defaultPattern } }
  if !env.addBlink then (false, a) else
  let a := { a with registry := { a.registry with blink := true } }
  if !env.addUnregister then (false, a) else
  (true, { a with registry := { a.registry with unregister := true } })

/-- `init_pdmc_client`. -/
def initPdmcClient (env : ResourceEnv) (a : App) : App :=
  let a := { a with client := { a.client with initialised := true } }
  let (created, a) := a.initExampleResources env
  if created then { a with client := { a.client with registerCalled := true } } else a

/-- `is_pdmc_client_register_called`. -/
def isPdmcClientRegisterCalled (a : App) : Bool := a.client.registerCalled

end App

end PelionClientLite
