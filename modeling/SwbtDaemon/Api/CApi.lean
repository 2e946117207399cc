import Mathlib.Logic.Function.Basic
import SwbtDaemon.Control.Control

/-!
# The C interface

`api/swbt_c_api.c`: a program without the daemon opens handles, submits states to them and reads
them back. A handle and its domain are two blocks of memory; a call that reads or frees what is not
there has no meaning, and the functions here then give nothing.
-/

namespace Swbt

/-- `swbt_controller_state_t`. -/
structure ControllerState where
  buttons : UInt32
  lx : UInt16
  ly : UInt16
  rx : UInt16
  ry : UInt16
  accelX : Int16
  accelY : Int16
  accelZ : Int16
  gyroX : Int16
  gyroY : Int16
  gyroZ : Int16
deriving DecidableEq, Repr

namespace CApi

/-- `swbt_result_t`. -/
inductive Result where
  | ok
  | invalidArgument
  | ownerBusy
  | notOwner
  | noMemory
deriving DecidableEq, Repr

/-- `swbt_status_t`. -/
structure Status where
  state : ControllerState
  runtimeAvailable : Bool
  runtimeRunning : Bool
deriving DecidableEq, Repr

/-- `swbt_map_control_result`. -/
def mapControlResult : Control.Result → Result
  | .ok => .ok
  | .ownerBusy => .ownerBusy
  | .notOwner => .notOwner
  | .invalidArgument => .invalidArgument

/-- `swbt_to_internal_state`. -/
def toInternalState (state : ControllerState) : State where
  buttons := state.buttons
  lx := state.lx
  ly := state.ly
  rx := state.rx
  ry := state.ry
  accelX := state.accelX
  accelY := state.accelY
  accelZ := state.accelZ
  gyroX := state.gyroX
  gyroY := state.gyroY
  gyroZ := state.gyroZ

/-- `swbt_from_internal_state`. -/
def fromInternalState (state : State) : ControllerState where
  buttons := state.buttons
  lx := state.lx
  ly := state.ly
  rx := state.rx
  ry := state.ry
  accelX := state.accelX
  accelY := state.accelY
  accelZ := state.accelZ
  gyroX := state.gyroX
  gyroY := state.gyroY
  gyroZ := state.gyroZ

@[simp] theorem fromInternalState_toInternalState (state : ControllerState) :
    fromInternalState (toInternalState state) = state := rfl

/-! ## Memory -/

/-- `struct swbt`: where its domain is, and its control without the domain. -/
structure Handle where
  app : Nat
  readRuntimeStatus : Option (Option RuntimeStatus)
  nextDirectSequence : UInt64

/-- The control of a handle over its domain. -/
def Handle.control (handle : Handle) (app : Domain) : Control :=
  ⟨app, handle.readRuntimeStatus, handle.nextDirectSequence⟩

/-- An allocated block. -/
inductive Block where
  | handle (handle : Handle)
  | domain (app : Domain)

/-- What is allocated at each address. -/
abbrev Memory := Nat → Option Block

/-- The handle at an address and the domain it points to. -/
def Memory.find (memory : Memory) (swbt : Nat) : Option (Handle × Domain) :=
  match memory swbt with
  | some (.handle handle) =>
    match memory handle.app with
    | some (.domain app) => some (handle, app)
    | _ => none
  | _ => none

/-- What a call through the control of a handle leaves. -/
def Memory.write (memory : Memory) (swbt : Nat) (handle : Handle) (control : Control) : Memory :=
  Function.update (Function.update memory handle.app (some (.domain control.app))) swbt
    (some (.handle ⟨handle.app, control.readRuntimeStatus, control.nextDirectSequence⟩))

/-! ## The calls -/

/-- A call. Where it allocates, it carries the answers of `malloc`, and a pointer is none for
`NULL`. -/
inductive Call where
  | openHandle (out : Bool) (handle domain : Option Nat)
  | close (swbt : Option Nat)
  | submitState (swbt : Option Nat) (state : Option ControllerState)
  | submitNeutral (swbt : Option Nat)
  | getStatus (swbt : Option Nat) (out : Bool)

/-- What a call returns and writes through the pointer it is given. -/
inductive Answer where
  | opened (result : Result) (out : Option (Option Nat))
  | closed
  | submitted (result : Result)
  | told (result : Result) (out : Option Status)
deriving DecidableEq, Repr

/-- `swbt_domain_create`. -/
def domainCreate (memory : Memory) (block : Option Nat) : Option Nat × Memory :=
  match block with
  | none => (none, memory)
  | some app =>
    match Domain.init with
    | .error _ => (none, Function.update memory app none)
    | .ok domain => (some app, Function.update memory app (some (.domain domain)))

/-- `swbt_open`. Its options are not read. -/
def openHandle (memory : Memory) (out : Bool) (handle domain : Option Nat) : Answer × Memory :=
  if !out then (.opened .invalidArgument none, memory)
  else
    match handle with
    | none => (.opened .noMemory (some none), memory)
    | some swbt =>
      let created := domainCreate memory domain
      match created.1 with
      | none => (.opened .noMemory (some none), Function.update created.2 swbt none)
      | some app =>
        (.opened .ok (some (some swbt)),
          Function.update created.2 swbt (some (.handle ⟨app, none, 0⟩)))

/-- `swbt_close`. -/
def close (memory : Memory) (swbt : Option Nat) : Option (Answer × Memory) :=
  match swbt with
  | none => some (.closed, memory)
  | some swbt =>
    (memory.find swbt).map fun found =>
      (.closed, Function.update (Function.update memory found.1.app none) swbt none)

/-- `swbt_submit_state`. -/
def submitState (memory : Memory) (swbt : Option Nat) (state : Option ControllerState) :
    Option (Answer × Memory) :=
  match swbt, state with
  | some swbt, some state =>
    (memory.find swbt).map fun found =>
      let r := (found.1.control found.2).submitState (toInternalState state)
      (.submitted (mapControlResult r.1), memory.write swbt found.1 r.2)
  | _, _ => some (.submitted .invalidArgument, memory)

/-- `swbt_submit_neutral`. -/
def submitNeutral (memory : Memory) (swbt : Option Nat) : Option (Answer × Memory) :=
  match swbt with
  | none => some (.submitted .invalidArgument, memory)
  | some swbt =>
    (memory.find swbt).map fun found =>
      let r := (found.1.control found.2).submitNeutral
      (.submitted (mapControlResult r.1), memory.write swbt found.1 r.2)

/-- `swbt_get_status`. -/
def getStatus (memory : Memory) (swbt : Option Nat) (out : Bool) : Option (Answer × Memory) :=
  match swbt with
  | none => some (.told .invalidArgument none, memory)
  | some swbt =>
    if !out then some (.told .invalidArgument none, memory)
    else
      (memory.find swbt).map fun found =>
        match (found.1.control found.2).getStatus with
        | .error result => (.told (mapControlResult result) none, memory)
        | .ok status =>
          (.told .ok (some
            { state := fromInternalState status.app.state
              runtimeAvailable := status.runtime.isSome
              runtimeRunning := status.runtime.any RuntimeStatus.running }), memory)

/-- A call, on the memory it finds. -/
def perform (memory : Memory) : Call → Option (Answer × Memory)
  | .openHandle out handle domain => some (openHandle memory out handle domain)
  | .close swbt => close memory swbt
  | .submitState swbt state => submitState memory swbt state
  | .submitNeutral swbt => submitNeutral memory swbt
  | .getStatus swbt out => getStatus memory swbt out

/-- The memory after a call; none once a call had no meaning. -/
def step (memory : Option Memory) (call : Call) : Option Memory :=
  (memory.bind fun memory => perform memory call).map Prod.snd

/-- What a call answers; none if it has no meaning. -/
def emit (memory : Option Memory) (call : Call) : List (Option Answer) :=
  [(memory.bind fun memory => perform memory call).map Prod.fst]

/-- What `malloc` gives is not in use. -/
def Fresh (memory : Option Memory) : Call → Prop
  | .openHandle _ handle domain =>
    ∀ m, memory = some m → (∀ a, handle = some a → m a = none) ∧
      (∀ a, domain = some a → m a = none ∧ handle ≠ some a)
  | _ => True

end CApi

end Swbt
