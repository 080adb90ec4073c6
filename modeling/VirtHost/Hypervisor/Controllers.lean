import VirtHost.Hypervisor.Devices

/-! # PCI controllers

A controller is attached while the virtual machine is off, at the next address that is not in use.

* `ControllerLayout`: where the first controller goes and how it is numbered.
* `controllerSlots`: the slots and functions that are tried, in order.
* `attachControllers`: shuts the virtual machine down, attaches the controllers, and starts it again
  if there is a new one.
-/

namespace VirtHost
set_option autoImplicit false

/-- Where the first controller goes and how it is numbered. All controllers are in one domain. -/
structure ControllerLayout where
  domain : UInt32 := 0
  firstBus : UInt8 := 0
  firstFunction : UInt8 := 1
  firstPort : Nat := 1
  firstSlot : UInt8 := 0
  firstChassis : Nat := 1
  firstIndex : Nat := 12
  deriving DecidableEq

namespace Hypervisor

/-- The highest slot and the highest function of a bus. -/
def maxSlot : Nat := 0x1f

@[inherit_doc maxSlot]
def maxFunction : Nat := 7

/-- The numbers from `first` to `last`, both included. -/
def between (first last : Nat) : List Nat :=
  List.range' first (last + 1 - first)

/-- The slots and functions from a first pair on, functions before slots. -/
def controllerSlots (firstSlot firstFunction : Nat) : List (Nat × Nat) :=
  (between firstSlot maxSlot).flatMap fun slot =>
    (between (if slot = firstSlot then firstFunction else 0) maxFunction).map fun function =>
      (slot, function)

/-- The error output of an attempt at an address that is in use. -/
def addressInUse : String :=
  "Attempted double use of PCI Address"

/-- Attaches a controller; whether its address was free. -/
def attachController (h : Hypervisor) (name file : String) (pci : Pci.Address)
    (index chassis port : Nat) : Action Bool := do
  let _ ← h.writeControllerXml file pci index chassis port
  match ← Action.ofProgram (h.attachDevice name file).attempt with
  | .ok _ => pure true
  | .error error => if error.stderrContains addressInUse then pure false else throw error

/-- Makes attempts at the given slots until `missing` controllers are attached; gives the number of
those that were. Every attempt has numbers of its own, `made` above the first ones. -/
def attachAt (h : Hypervisor) (name file : String) (layout : ControllerLayout) :
    (missing made : Nat) → List (Nat × Nat) → Action Nat
  | 0, _, _ => pure 0
  | _ + 1, _, [] => pure 0
  | missing + 1, made, (slot, function) :: rest => do
    let pci : Pci.Address :=
      ⟨layout.domain, layout.firstBus, UInt8.ofNat slot, UInt8.ofNat function⟩
    if ← h.attachController name file pci (layout.firstIndex + made) (layout.firstChassis + made)
        (layout.firstPort + made) then
      let others ← attachAt h name file layout missing (made + 1) rest
      pure (others + 1)
    else attachAt h name file layout (missing + 1) (made + 1) rest

/-- Attaches `count` controllers to a virtual machine, which is shut down for it. -/
def attachControllers (h : Hypervisor) (name : String) (count : Nat) (layout : ControllerLayout) :
    Action Unit := do
  h.tool.shutdown name
  let _ ← h.awaitShutOff name
  let attached ← h.attachAt name (h.workFile "pci_controller.xml") layout count 0
    (controllerSlots layout.firstSlot.toNat layout.firstFunction.toNat)
  if 0 < attached then h.tool.start name
  if attached < count then throw (.notEnoughPciAddresses count attached)

end Hypervisor
end VirtHost
